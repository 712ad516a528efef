import EasyViewer.BlackListBlocks
import Mathlib.Data.String.Basic

/-!
What `listIPAddresses` and `listAccounts` list. The operation that inserts a key decides
the record's type and target; `addAccount` inserts with the type of an address, and an
address may be the text of a user id.
-/

namespace EasyViewer

theorem mapM_isSome {α β : Type} {f : α → Option β} {entries : List α} :
    (entries.mapM f).isSome = true ↔ ∀ entry ∈ entries, (f entry).isSome = true := by
  induction entries with
  | nil => simp
  | cons entry entries ih =>
      rw [List.mapM_cons, List.forall_mem_cons, ← ih]
      cases f entry with
      | none => simp
      | some value => cases entries.mapM f <;> simp

theorem mem_of_mapM {α β : Type} {f : α → Option β} {entries : List α} {values : List β}
    (mapped : entries.mapM f = some values) (value : β) :
    value ∈ values ↔ ∃ entry ∈ entries, f entry = some value := by
  induction entries generalizing values with
  | nil =>
      simp only [List.mapM_nil, Option.pure_def, Option.some.injEq] at mapped
      simp [← mapped]
  | cons entry entries ih =>
      simp only [List.mapM_cons, Option.pure_def, Option.bind_eq_bind, Option.bind_eq_some_iff,
        Option.some.injEq] at mapped
      obtain ⟨first, isFirst, rest, isRest, rfl⟩ := mapped
      simp only [List.mem_cons, ih isRest, exists_eq_or_imp, isFirst, Option.some.injEq]
      exact or_congr_left eq_comm

namespace BlackList

def Sorted (blackList : BlackList) : Prop :=
  blackList.statuses.Pairwise fun first second => first.1 < second.1

theorem mem_place {key : String} {status : Status} {statuses : List (String × Status)}
    {entry : String × Status} (placed : entry ∈ place key status statuses) :
    entry = (key, status) ∨ entry ∈ statuses := by
  induction statuses with
  | nil => exact Or.inl (List.mem_singleton.mp placed)
  | cons first statuses ih =>
      simp only [place] at placed
      split at placed
      · rcases List.mem_cons.mp placed with same | later
        · exact Or.inl same
        · exact Or.inr (List.mem_cons_of_mem _ later)
      · split at placed
        · exact List.mem_cons.mp placed
        · rcases List.mem_cons.mp placed with same | later
          · exact Or.inr (same ▸ List.mem_cons_self)
          · exact (ih later).imp_right (List.mem_cons_of_mem _)

theorem pairwise_place {statuses : List (String × Status)}
    (sorted : statuses.Pairwise fun first second => first.1 < second.1) (key : String)
    (status : Status) :
    (place key status statuses).Pairwise fun first second => first.1 < second.1 := by
  induction statuses with
  | nil => exact List.pairwise_singleton _ _
  | cons first statuses ih =>
      obtain ⟨below, rest⟩ := List.pairwise_cons.mp sorted
      simp only [place]
      split
      · rename_i same
        exact List.pairwise_cons.mpr ⟨fun entry later => same ▸ below entry later, rest⟩
      · rename_i different
        split
        · rename_i before
          refine List.pairwise_cons.mpr ⟨fun entry later => ?_, sorted⟩
          rcases List.mem_cons.mp later with same | further
          · exact same ▸ before
          · exact lt_trans before (below entry further)
        · rename_i notBefore
          have after : first.1 < key :=
            lt_of_le_of_ne (not_lt.mp notBefore) fun same => different same.symm
          refine List.pairwise_cons.mpr ⟨fun entry later => ?_, ih rest⟩
          rcases mem_place later with same | further
          · exact same ▸ after
          · exact below entry further

theorem Sorted.mem_iff {blackList : BlackList} (sorted : blackList.Sorted) (key : String)
    (status : Status) :
    (key, status) ∈ blackList.statuses ↔ blackList.find key = some status := by
  obtain ⟨statuses⟩ := blackList
  simp only [Sorted, find] at sorted ⊢
  induction statuses with
  | nil => simp
  | cons first statuses ih =>
      obtain ⟨below, rest⟩ := List.pairwise_cons.mp sorted
      rw [List.mem_cons, ih rest, lookup_entry first.1 key first.2 statuses]
      split
      · rename_i same
        constructor
        · rintro (rfl | later)
          · rfl
          · exact absurd (below _ ((ih rest).mpr later)) (by simp [same])
        · rintro found
          exact Or.inl (Prod.ext same (Option.some.inj found).symm)
      · rename_i different
        refine ⟨fun either => either.resolve_left ?_, Or.inr⟩
        rintro rfl
        exact different rfl

theorem Sorted.put {blackList : BlackList} (sorted : blackList.Sorted) (key : String)
    (status : Status) : (blackList.put key status).Sorted := pairwise_place sorted key status

theorem Sorted.remove {blackList : BlackList} (sorted : blackList.Sorted) (key : String) :
    (blackList.remove key).Sorted := List.Pairwise.filter _ sorted

theorem Sorted.increase {blackList : BlackList} (sorted : blackList.Sorted) (key : String)
    (status : Status) (t : Int) : (blackList.increase key status t).Sorted := by
  simp only [BlackList.increase]
  split
  · exact sorted.put key status
  · exact sorted.put key _

theorem Sorted.call {blackList : BlackList} (sorted : blackList.Sorted) (request : BlackListCall)
    (t : Int) : (blackList.call request t).Sorted := by
  cases request with
  | addIPAddress ip duration => exact sorted.put _ _
  | addAccount account duration => exact sorted.put _ _
  | increaseIPAddress ip => exact sorted.increase _ _ _
  | increaseAccount account => exact sorted.increase _ _ _
  | removeIPAddress ip => exact sorted.remove _
  | removeAccount id => exact sorted.remove _
  | checkIPAddress _ | checkAccount _ | listIPAddresses | listAccounts => exact sorted

theorem check_expiry (blackList : BlackList) (key : String) (t : Int) :
    blackList.check key t = false ↔ ∃ until_, blackList.expiry key = some until_ ∧ t ≤ until_ := by
  constructor
  · intro refused
    simp only [check] at refused
    split at refused
    · contradiction
    · rename_i status found
      simp only [Bool.not_eq_false', Bool.and_eq_true, decide_eq_true_eq] at refused
      exact ⟨status.blockUntil, by simp [expiry, found, refused.1], refused.2⟩
  · rintro ⟨until_, blocked, early⟩
    exact check_of_expiry blocked early

theorem expiry_eq_some {blackList : BlackList} {key : String} {until_ : Int} :
    blackList.expiry key = some until_ ↔ ∃ status, blackList.find key = some status ∧
      status.blocked = true ∧ status.blockUntil = until_ := by
  simp only [expiry, Option.bind_eq_some_iff, Option.ite_none_right_eq_some, Option.some.injEq]

def Expires (check : Int → Bool) (until_ : Int) : Prop := ∀ t, check t = false ↔ t ≤ until_

theorem expires_iff (blackList : BlackList) (key : String) (until_ : Int) :
    Expires (blackList.check key) until_ ↔ blackList.expiry key = some until_ := by
  simp only [Expires, check_expiry]
  constructor
  · intro expires
    obtain ⟨late, blocked, after⟩ := (expires until_).mpr le_rfl
    have before := (expires late).mp ⟨late, blocked, le_rfl⟩
    rw [blocked, le_antisymm before after]
  · rintro blocked t
    constructor
    · rintro ⟨late, isLate, early⟩
      rw [blocked, Option.some.injEq] at isLate
      exact isLate ▸ early
    · exact fun early => ⟨until_, blocked, early⟩

theorem expires_blocked (blackList : BlackList) (key : String) (until_ : Int) :
    Expires (blackList.check key) until_ ↔ ∃ status, blackList.find key = some status ∧
      status.blocked = true ∧ status.blockUntil = until_ :=
  (expires_iff blackList key until_).trans expiry_eq_some

theorem mem_listIPAddresses {blackList : BlackList} {addresses : List (String × Int)}
    (listed : blackList.listIPAddresses = some addresses) (ip : String) (until_ : Int) :
    (ip, until_) ∈ addresses ↔ ∃ key status, (key, status) ∈ blackList.statuses ∧
      status.type = .ipAddress ∧ status.blocked = true ∧ status.target = .inl ip ∧
      status.blockUntil = until_ := by
  rw [mem_of_mapM listed]
  simp only [List.mem_filter, Bool.and_eq_true, decide_eq_true_eq, Prod.exists, and_assoc]
  refine exists_congr fun key => exists_congr fun status => ?_
  refine and_congr_right fun _ => and_congr_right fun _ => and_congr_right fun _ => ?_
  cases status.target with
  | inl address => simp
  | inr account => simp

theorem mem_listAccounts {blackList : BlackList} {accounts : List (UserId × String × Int)}
    (listed : blackList.listAccounts = some accounts) (id : UserId) (name : String) (until_ : Int) :
    (id, name, until_) ∈ accounts ↔ ∃ key status account, (key, status) ∈ blackList.statuses ∧
      status.type = .account ∧ status.blocked = true ∧ status.target = .inr account ∧
      account.id = id ∧ account.account = name ∧ status.blockUntil = until_ := by
  rw [mem_of_mapM listed]
  simp only [List.mem_filter, Bool.and_eq_true, decide_eq_true_eq, Prod.exists, and_assoc,
    exists_and_left]
  refine exists_congr fun key => exists_congr fun status => ?_
  refine and_congr_right fun _ => and_congr_right fun _ => and_congr_right fun _ => ?_
  cases status.target with
  | inl address => simp
  | inr account => simp

theorem listIPAddresses_isSome (blackList : BlackList) :
    blackList.listIPAddresses.isSome = true ↔ ∀ key status, (key, status) ∈ blackList.statuses →
      status.type = .ipAddress → status.blocked = true → ∃ ip, status.target = .inl ip := by
  rw [listIPAddresses, mapM_isSome]
  simp only [List.mem_filter, Bool.and_eq_true, decide_eq_true_eq, Prod.forall, and_imp]
  refine forall_congr' fun key => forall_congr' fun status => ?_
  refine imp_congr_right fun _ => imp_congr_right fun _ => imp_congr_right fun _ => ?_
  cases status.target with
  | inl address => simp
  | inr account => simp

theorem listAccounts_isSome (blackList : BlackList) :
    blackList.listAccounts.isSome = true ↔ ∀ key status, (key, status) ∈ blackList.statuses →
      status.type = .account → status.blocked = true →
        ∃ account, status.target = .inr account := by
  rw [listAccounts, mapM_isSome]
  simp only [List.mem_filter, Bool.and_eq_true, decide_eq_true_eq, Prod.forall, and_imp]
  refine forall_congr' fun key => forall_congr' fun status => ?_
  refine imp_congr_right fun _ => imp_congr_right fun _ => imp_congr_right fun _ => ?_
  cases status.target with
  | inl address => simp
  | inr account => simp

end BlackList

namespace BlackListCall

def namedAddress : BlackListCall → Option String
  | .addIPAddress ip _ | .increaseIPAddress ip => some ip
  | _ => none

def namedAccount : BlackListCall → Option Account
  | .addAccount account _ | .increaseAccount account => some account
  | _ => none

end BlackListCall

/-- A black list with, for each key, whether a failure or an addition named it as an address and
the first account with that id they named, both since the key was last removed. -/
structure ListingHistory where
  blackList : BlackList := {}
  address : String → Bool := fun _ => false
  account : String → Option Account := fun _ => none

def listingStep (history : ListingHistory) (event : BlackListCall × Int) : Option ListingHistory :=
  let (request, t) := event
  some {
    blackList := history.blackList.call request t
    address := fun key =>
      if request.removes = some key then false
      else history.address key || request.namedAddress = some key
    account := fun key =>
      if request.removes = some key then none
      else (history.account key).or
        (request.namedAccount.filter fun account => BlackList.toKey2 account.id = key) }

/-- The listings return, and list the addresses and the accounts whose checks refuse up to some
time, each with that time. -/
def ListingsExact (history : ListingHistory) : Prop :=
  ∃ addresses accounts, history.blackList.listIPAddresses = some addresses ∧
    history.blackList.listAccounts = some accounts ∧
    (∀ ip until_, (ip, until_) ∈ addresses ↔ history.address ip = true ∧
      BlackList.Expires (history.blackList.checkIPAddress ip) until_) ∧
    ∀ id name until_, (id, name, until_) ∈ accounts ↔
      (∃ account, history.account (BlackList.toKey2 id) = some account ∧ account.id = id ∧
        account.account = name) ∧
      BlackList.Expires (history.blackList.checkAccount id) until_

/-- A manual addition of an account finds a record, and no key that is used both as an address
and as an account is blocked by the call or stays so. -/
def KindKept (history : ListingHistory) (event : BlackListCall × Int) : Prop :=
  match event.1 with
  | .addIPAddress ip _ => history.account ip = none
  | .addAccount account _ =>
      history.blackList.find (BlackList.toKey2 account.id) ≠ none ∧
        history.address (BlackList.toKey2 account.id) = false
  | .increaseIPAddress ip =>
      ∀ status, history.blackList.find ip = some status →
        (BlackList.counted status event.2).blocked = true → history.account ip = none
  | .increaseAccount account =>
      ∀ status, history.blackList.find (BlackList.toKey2 account.id) = some status →
        (BlackList.counted status event.2).blocked = true →
          history.address (BlackList.toKey2 account.id) = false
  | _ => True

/-- How the record of a key comes from the names given to the key. -/
def RecordedAs (key : String) (address : Bool) (account : Option Account) :
    Option BlackList.Status → Prop
  | none => address = false ∧ account = none
  | some status =>
      (status.type = .ipAddress ∧ status.target = .inl key ∧ address = true) ∨
        ∃ first, status.target = .inr first ∧ account = some first ∧
          (status.type = .ipAddress → status.blocked = true)

structure Recorded (history : ListingHistory) : Prop where
  sorted : history.blackList.Sorted
  keyed : ∀ key account, history.account key = some account → BlackList.toKey2 account.id = key
  records : ∀ key, RecordedAs key (history.address key) (history.account key)
    (history.blackList.find key)

def ListedAs (address : Bool) (account : Option Account) (status : BlackList.Status) : Prop :=
  status.blocked = true →
    (status.type = .ipAddress ∧ account = none) ∨ (status.type = .account ∧ address = false)

def AllListed (history : ListingHistory) : Prop :=
  ∀ key status, history.blackList.find key = some status →
    ListedAs (history.address key) (history.account key) status

section

variable {history : ListingHistory}

theorem Recorded.at (recorded : Recorded history) {key : String} {status : BlackList.Status}
    (found : history.blackList.find key = some status) :
    RecordedAs key (history.address key) (history.account key) (some status) :=
  found ▸ recorded.records key

theorem AllListed.exact (recorded : Recorded history) (listed : AllListed history) :
    ListingsExact history := by
  have isAddress : ∀ key status, history.blackList.find key = some status →
      status.type = .ipAddress → status.blocked = true →
        status.target = .inl key ∧ history.address key = true := by
    intro key status found type blocked
    rcases recorded.at found with ⟨_, target, named⟩ | ⟨first, _, named, _⟩
    · exact ⟨target, named⟩
    · rcases listed key status found blocked with ⟨_, unnamed⟩ | ⟨other, _⟩
      · simp [named] at unnamed
      · simp [type] at other
  have isAccount : ∀ key status, history.blackList.find key = some status →
      status.type = .account →
        ∃ first, status.target = .inr first ∧ history.account key = some first := by
    intro key status found type
    rcases recorded.at found with ⟨other, _⟩ | ⟨first, target, named, _⟩
    · simp [type] at other
    · exact ⟨first, target, named⟩
  obtain ⟨addresses, listsAddresses⟩ := Option.isSome_iff_exists.mp
    ((BlackList.listIPAddresses_isSome history.blackList).mpr fun key status member type blocked =>
      ⟨key, (isAddress key status ((recorded.sorted.mem_iff key status).mp member) type blocked).1⟩)
  obtain ⟨accounts, listsAccounts⟩ := Option.isSome_iff_exists.mp
    ((BlackList.listAccounts_isSome history.blackList).mpr fun key status member type _ =>
      (isAccount key status ((recorded.sorted.mem_iff key status).mp member) type).imp
        fun _ both => both.1)
  refine ⟨addresses, accounts, listsAddresses, listsAccounts, fun ip until_ => ?_,
    fun id name until_ => ?_⟩
  · have expires := BlackList.expires_blocked history.blackList ip until_
    rw [BlackList.mem_listIPAddresses listsAddresses]
    constructor
    · rintro ⟨key, status, member, type, blocked, target, rfl⟩
      have found := (recorded.sorted.mem_iff key status).mp member
      obtain ⟨own, named⟩ := isAddress key status found type blocked
      obtain rfl : key = ip := Sum.inl.inj (own.symm.trans target)
      exact ⟨named, expires.mpr ⟨status, found, blocked, rfl⟩⟩
    · rintro ⟨named, refused⟩
      obtain ⟨status, found, blocked, ends⟩ := expires.mp refused
      rcases listed ip status found blocked with ⟨type, _⟩ | ⟨_, unnamed⟩
      · exact ⟨ip, status, (recorded.sorted.mem_iff ip status).mpr found, type, blocked,
          (isAddress ip status found type blocked).1, ends⟩
      · simp [named] at unnamed
  · have expires := BlackList.expires_blocked history.blackList (BlackList.toKey2 id) until_
    rw [BlackList.mem_listAccounts listsAccounts]
    constructor
    · rintro ⟨key, status, account, member, type, blocked, target, rfl, rfl, rfl⟩
      have found := (recorded.sorted.mem_iff key status).mp member
      obtain ⟨first, own, named⟩ := isAccount key status found type
      obtain rfl : first = account := Sum.inr.inj (own.symm.trans target)
      obtain rfl := recorded.keyed key first named
      exact ⟨⟨first, named, rfl, rfl⟩, expires.mpr ⟨status, found, blocked, rfl⟩⟩
    · rintro ⟨⟨account, named, rfl, rfl⟩, refused⟩
      obtain ⟨status, found, blocked, ends⟩ := expires.mp refused
      rcases listed _ status found blocked with ⟨_, unnamed⟩ | ⟨type, _⟩
      · simp [named] at unnamed
      · obtain ⟨first, own, isFirst⟩ := isAccount _ status found type
        obtain rfl : account = first := Option.some.inj (named.symm.trans isFirst)
        exact ⟨_, status, account, (recorded.sorted.mem_iff _ status).mpr found, type, blocked,
          own, rfl, rfl, ends⟩

theorem AllListed.of_exact (recorded : Recorded history) (exact_ : ListingsExact history) :
    AllListed history := by
  obtain ⟨addresses, accounts, listsAddresses, listsAccounts, addressesExact, accountsExact⟩ :=
    exact_
  intro key status found blocked
  have expires : BlackList.Expires (history.blackList.check key) status.blockUntil :=
    (BlackList.expires_blocked history.blackList key _).mpr ⟨status, found, blocked, rfl⟩
  rcases recorded.at found with ⟨type, target, named⟩ | ⟨first, target, named, _⟩
  · refine Or.inl ⟨type, ?_⟩
    by_contra used
    obtain ⟨account, isAccount⟩ := Option.ne_none_iff_exists'.mp used
    obtain rfl := recorded.keyed key account isAccount
    have lists := (accountsExact account.id account.account status.blockUntil).mpr
      ⟨⟨account, isAccount, rfl, rfl⟩, expires⟩
    obtain ⟨other, otherStatus, otherAccount, member, otherType, _, otherTarget, sameId, _⟩ :=
      (BlackList.mem_listAccounts listsAccounts _ _ _).mp lists
    have otherFound := (recorded.sorted.mem_iff other otherStatus).mp member
    rcases recorded.at otherFound with ⟨isAddress, _⟩ | ⟨own, ownTarget, ownNamed, _⟩
    · simp [otherType] at isAddress
    · obtain rfl : own = otherAccount := Sum.inr.inj (ownTarget.symm.trans otherTarget)
      have ownKey := recorded.keyed other own ownNamed
      rw [← ownKey, sameId, found, Option.some.injEq] at otherFound
      simp [← otherFound, type] at otherType
  · cases type : status.type with
    | ipAddress =>
        have returns := (BlackList.listIPAddresses_isSome history.blackList).mp
          (Option.isSome_iff_exists.mpr ⟨addresses, listsAddresses⟩) key status
          ((recorded.sorted.mem_iff key status).mpr found) type blocked
        simp [target] at returns
    | account =>
        refine Or.inr ⟨rfl, ?_⟩
        by_contra used
        have lists := (addressesExact key status.blockUntil).mpr
          ⟨Bool.not_eq_false _ ▸ used, expires⟩
        obtain ⟨other, otherStatus, member, otherType, otherBlocked, otherTarget, _⟩ :=
          (BlackList.mem_listIPAddresses listsAddresses _ _).mp lists
        have otherFound := (recorded.sorted.mem_iff other otherStatus).mp member
        rcases recorded.at otherFound with ⟨_, ownTarget, _⟩ | ⟨own, ownTarget, _⟩
        · obtain rfl : other = key := Sum.inl.inj (ownTarget.symm.trans otherTarget)
          rw [found, Option.some.injEq] at otherFound
          simp [← otherFound, type] at otherType
        · simp [ownTarget] at otherTarget

theorem listingsExact_iff (recorded : Recorded history) :
    ListingsExact history ↔ AllListed history :=
  ⟨AllListed.of_exact recorded, AllListed.exact recorded⟩

theorem RecordedAs.later {key : String} {address : Bool} {account : Option Account}
    {before after : BlackList.Status} (recorded : RecordedAs key address account (some before))
    (more : Bool) (other : Option Account)
    (type : after.type = before.type) (target : after.target = before.target)
    (blocked : before.blocked = true → after.blocked = true) :
    RecordedAs key (address || more) (account.or other) (some after) := by
  rcases recorded with ⟨isAddress, own, named⟩ | ⟨first, own, named, typed⟩
  · exact Or.inl ⟨type.trans isAddress, target.trans own, by rw [named, Bool.true_or]⟩
  · refine Or.inr ⟨first, target.trans own, by rw [named, Option.some_or], fun isAddress => ?_⟩
    exact blocked (typed (type.symm.trans isAddress))

theorem Recorded.changed {next : ListingHistory} {key : String} {status : BlackList.Status}
    (recorded : Recorded history) (sorted : next.blackList.Sorted)
    (find : ∀ other, next.blackList.find other =
      if other = key then some status else history.blackList.find other)
    (names : ∀ other, other ≠ key →
      next.address other = history.address other ∧ next.account other = history.account other)
    (keyed : ∀ account, next.account key = some account → BlackList.toKey2 account.id = key)
    (record : RecordedAs key (next.address key) (next.account key) (some status)) :
    Recorded next ∧ (AllListed history →
      (AllListed next ↔ ListedAs (next.address key) (next.account key) status)) := by
  refine ⟨⟨sorted, fun other account named => ?_, fun other => ?_⟩, fun listed => ?_⟩
  · by_cases same : other = key
    · subst same
      exact keyed account named
    · exact recorded.keyed other account ((names other same).2 ▸ named)
  · rw [find]
    by_cases same : other = key
    · subst same
      rwa [if_pos rfl]
    · rw [if_neg same, (names other same).1, (names other same).2]
      exact recorded.records other
  · constructor
    · intro allListed
      exact allListed key status (by rw [find, if_pos rfl])
    · intro here other otherStatus found
      rw [find] at found
      by_cases same : other = key
      · subst same
        rw [if_pos rfl, Option.some.injEq] at found
        exact found ▸ here
      · rw [if_neg same] at found
        rw [(names other same).1, (names other same).2]
        exact listed other otherStatus found

theorem Recorded.removed {next : ListingHistory} (recorded : Recorded history) (key : String)
    (sorted : next.blackList.Sorted)
    (find : ∀ other, next.blackList.find other =
      if other = key then none else history.blackList.find other)
    (address : ∀ other, next.address other = if other = key then false else history.address other)
    (account : ∀ other, next.account other = if other = key then none else history.account other) :
    Recorded next ∧ (AllListed history → AllListed next) := by
  refine ⟨⟨sorted, fun other first named => ?_, fun other => ?_⟩,
    fun listed other status found => ?_⟩
  · rw [account] at named
    split at named
    · contradiction
    · exact recorded.keyed other first named
  · rw [find, address, account]
    split
    · exact ⟨rfl, rfl⟩
    · exact recorded.records other
  · rw [find] at found
    rw [address, account]
    split
    · simp_all
    · rename_i different
      rw [if_neg different] at found
      exact listed other status found

theorem Recorded.namesAddress {next : ListingHistory} {status : BlackList.Status}
    (recorded : Recorded history) (ip : String) (sorted : next.blackList.Sorted)
    (find : ∀ other, next.blackList.find other =
      if other = ip then some status else history.blackList.find other)
    (address : ∀ other, next.address other = (history.address other || decide (ip = other)))
    (account : next.account = history.account)
    (fresh : history.blackList.find ip = none →
      status.type = .ipAddress ∧ status.target = .inl ip)
    (later : ∀ before, history.blackList.find ip = some before →
      status.type = before.type ∧ status.target = before.target ∧
        (before.blocked = true → status.blocked = true)) :
    Recorded next ∧ (AllListed history →
      (AllListed next ↔ (status.blocked = true → history.account ip = none))) := by
  have record : RecordedAs ip (next.address ip) (next.account ip) (some status) := by
    rw [address, account]
    cases found : history.blackList.find ip with
    | none =>
        obtain ⟨type, target⟩ := fresh found
        exact Or.inl ⟨type, target, by simp⟩
    | some before =>
        obtain ⟨type, target, blocked⟩ := later before found
        have kept := (recorded.at found).later (decide (ip = ip)) none type target blocked
        rwa [Option.or_none] at kept
  have changed := recorded.changed sorted find
    (fun other different => ⟨by simp [address, Ne.symm different], by rw [account]⟩)
    (fun first named => recorded.keyed ip first (account ▸ named)) record
  refine ⟨changed.1, fun listed => (changed.2 listed).trans ?_⟩
  simp only [ListedAs, address, account, decide_true, Bool.or_true, Bool.true_eq_false, and_false,
    or_false]
  refine ⟨fun both blocked => (both blocked).2, fun unnamed blocked => ⟨?_, unnamed blocked⟩⟩
  rcases record with ⟨type, _⟩ | ⟨first, _, named, _⟩
  · exact type
  · rw [account, unnamed blocked] at named
    contradiction

theorem Recorded.namesAccount {next : ListingHistory} {status : BlackList.Status}
    (recorded : Recorded history) (account : Account) (sorted : next.blackList.Sorted)
    (find : ∀ other, next.blackList.find other =
      if other = BlackList.toKey2 account.id then some status else history.blackList.find other)
    (address : next.address = history.address)
    (names : ∀ other, next.account other = (history.account other).or
      ((some account).filter fun named => BlackList.toKey2 named.id = other))
    (fresh : history.blackList.find (BlackList.toKey2 account.id) = none →
      status.target = .inr account ∧ (status.type = .ipAddress → status.blocked = true))
    (later : ∀ before, history.blackList.find (BlackList.toKey2 account.id) = some before →
      status.type = before.type ∧ status.target = before.target ∧
        (before.blocked = true → status.blocked = true)) :
    Recorded next ∧ (AllListed history →
      (AllListed next ↔ (status.blocked = true →
        (history.blackList.find (BlackList.toKey2 account.id) = none → status.type = .account) ∧
          history.address (BlackList.toKey2 account.id) = false))) := by
  have named : next.account (BlackList.toKey2 account.id) =
      (history.account (BlackList.toKey2 account.id)).or (some account) := by
    rw [names, Option.filter_some]
    simp
  have record : RecordedAs (BlackList.toKey2 account.id)
      (next.address (BlackList.toKey2 account.id)) (next.account (BlackList.toKey2 account.id))
      (some status) := by
    rw [address, named]
    cases found : history.blackList.find (BlackList.toKey2 account.id) with
    | none =>
        obtain ⟨target, blocked⟩ := fresh found
        have absent := recorded.records (BlackList.toKey2 account.id)
        rw [found] at absent
        exact Or.inr ⟨account, target, by rw [absent.2, Option.none_or], blocked⟩
    | some before =>
        obtain ⟨type, target, blocked⟩ := later before found
        have kept := (recorded.at found).later false (some account) type target blocked
        rwa [Bool.or_false] at kept
  have others : ∀ other, other ≠ BlackList.toKey2 account.id →
      next.address other = history.address other ∧ next.account other = history.account other := by
    intro other different
    refine ⟨by rw [address], ?_⟩
    rw [names, Option.filter_some]
    simp [Ne.symm different]
  have keyed : ∀ first, next.account (BlackList.toKey2 account.id) = some first →
      BlackList.toKey2 first.id = BlackList.toKey2 account.id := by
    intro first isFirst
    rw [named] at isFirst
    rcases Option.or_eq_some_iff.mp isFirst with before | ⟨_, own⟩
    · exact recorded.keyed _ first before
    · rw [Option.some.inj own]
  have changed := recorded.changed sorted find others keyed record
  refine ⟨changed.1, fun listed => (changed.2 listed).trans ?_⟩
  have someNamed : next.account (BlackList.toKey2 account.id) ≠ none := by
    rw [named]
    simp
  simp only [ListedAs, someNamed, and_false, false_or, address]
  constructor
  · exact fun both blocked => ⟨fun _ => (both blocked).1, (both blocked).2⟩
  · intro both blocked
    obtain ⟨created, alone⟩ := both blocked
    refine ⟨?_, alone⟩
    cases found : history.blackList.find (BlackList.toKey2 account.id) with
    | none => exact created found
    | some before =>
        rw [(later before found).1]
        rcases recorded.at found with ⟨_, _, used⟩ | ⟨first, _, isNamed, typed⟩
        · rw [alone] at used
          contradiction
        · cases type : before.type with
          | account => rfl
          | ipAddress =>
              rcases listed _ before found (typed type) with ⟨_, unnamed⟩ | ⟨other, _⟩
              · rw [isNamed] at unnamed
                contradiction
              · rw [type] at other
                contradiction

theorem listingStep_idle {request : BlackListCall} (t : Int) (keeps : request.removes = none)
    (address : request.namedAddress = none) (account : request.namedAccount = none)
    (same : history.blackList.call request t = history.blackList) :
    listingStep history (request, t) = some history := by
  simp [listingStep, keeps, address, account, same]

theorem Recorded.idle {next : ListingHistory} {event : BlackListCall × Int}
    (recorded : Recorded history) (idle : listingStep history event = some history)
    (stepped : listingStep history event = some next) :
    Recorded next ∧ (AllListed history → (AllListed next ↔ True)) := by
  rw [idle, Option.some.injEq] at stepped
  exact stepped ▸ ⟨recorded, fun listed => iff_of_true listed trivial⟩

/-- A step keeps the listings exact just when it keeps the kinds of the keys apart. -/
theorem listingStep_listed {next : ListingHistory} {event : BlackListCall × Int}
    (recorded : Recorded history) (stepped : listingStep history event = some next) :
    Recorded next ∧ (AllListed history → (AllListed next ↔ KindKept history event)) := by
  obtain ⟨request, t⟩ := event
  have sorted : next.blackList.Sorted := by
    cases stepped
    exact recorded.sorted.call request t
  cases stepped
  cases request with
  | addIPAddress ip duration =>
      have named := recorded.namesAddress ip sorted (fun other => BlackList.find_put _ _ _ _)
        (fun other => by simp [BlackListCall.removes, BlackListCall.namedAddress])
        (by funext other; simp [BlackListCall.removes, BlackListCall.namedAccount])
        (fun absent => by simp [absent, BlackList.firstStatus])
        (fun before found => by simp [found])
      refine ⟨named.1, fun listed => (named.2 listed).trans ?_⟩
      simp [KindKept]
  | addAccount account duration =>
      have named := recorded.namesAccount account sorted
        (fun other => BlackList.find_put _ _ _ _)
        (by funext other; simp [BlackListCall.removes, BlackListCall.namedAddress])
        (fun other => by simp [BlackListCall.removes, BlackListCall.namedAccount])
        (fun absent => by simp [absent, BlackList.firstStatus])
        (fun before found => by simp [found])
      refine ⟨named.1, fun listed => (named.2 listed).trans ?_⟩
      cases found : history.blackList.find (BlackList.toKey2 account.id) with
      | none => simp [KindKept, found, BlackList.firstStatus]
      | some before => simp [KindKept, found]
  | increaseIPAddress ip =>
      have named := recorded.namesAddress ip sorted
        (fun other => BlackList.find_increase _ _ _ _ _)
        (fun other => by simp [BlackListCall.removes, BlackListCall.namedAddress])
        (by funext other; simp [BlackListCall.removes, BlackListCall.namedAccount])
        (fun absent => by simp [absent, BlackList.firstStatus])
        (fun before found => by simp [found, BlackList.counted]; tauto)
      refine ⟨named.1, fun listed => (named.2 listed).trans ?_⟩
      cases found : history.blackList.find ip with
      | none => simp [KindKept, found, BlackList.firstStatus]
      | some before => simp [KindKept, found]
  | increaseAccount account =>
      have named := recorded.namesAccount account sorted
        (fun other => BlackList.find_increase _ _ _ _ _)
        (by funext other; simp [BlackListCall.removes, BlackListCall.namedAddress])
        (fun other => by simp [BlackListCall.removes, BlackListCall.namedAccount])
        (fun absent => by simp [absent, BlackList.firstStatus])
        (fun before found => by simp [found, BlackList.counted]; tauto)
      refine ⟨named.1, fun listed => (named.2 listed).trans ?_⟩
      cases found : history.blackList.find (BlackList.toKey2 account.id) with
      | none => simp [KindKept, found, BlackList.firstStatus]
      | some before => simp [KindKept, found]
  | removeIPAddress ip =>
      have removed := recorded.removed ip sorted (fun other => BlackList.find_remove _ _ _)
        (fun other => by simp [BlackListCall.removes, BlackListCall.namedAddress, eq_comm])
        (fun other => by simp [BlackListCall.removes, BlackListCall.namedAccount, eq_comm])
      exact ⟨removed.1, fun listed => iff_of_true (removed.2 listed) trivial⟩
  | removeAccount id =>
      have removed := recorded.removed (BlackList.toKey2 id) sorted
        (fun other => BlackList.find_remove _ _ _)
        (fun other => by simp [BlackListCall.removes, BlackListCall.namedAddress, eq_comm])
        (fun other => by simp [BlackListCall.removes, BlackListCall.namedAccount, eq_comm])
      exact ⟨removed.1, fun listed => iff_of_true (removed.2 listed) trivial⟩
  | checkIPAddress ip => exact recorded.idle (listingStep_idle t rfl rfl rfl rfl) rfl
  | checkAccount id => exact recorded.idle (listingStep_idle t rfl rfl rfl rfl) rfl
  | listIPAddresses => exact recorded.idle (listingStep_idle t rfl rfl rfl rfl) rfl
  | listAccounts => exact recorded.idle (listingStep_idle t rfl rfl rfl rfl) rfl

end

/-- In every run the listings are exact throughout just when no manual addition makes an account's
record and no key is blocked that is used as an address and as an account. -/
theorem listings_exact_iff (events : List (BlackListCall × Int)) :
    Transition.Throughout listingStep ListingsExact {} events ↔
      Transition.Happening listingStep KindKept {} events := by
  have initially : Recorded {} :=
    ⟨List.Pairwise.nil, fun key account named => (by cases named), fun key => ⟨rfl, rfl⟩⟩
  refine Transition.Throughout.iff_happening listingStep Recorded ?_ initially ?_
  · intro history event next recorded exact_ stepped
    obtain ⟨kept, listed⟩ := listingStep_listed recorded stepped
    refine ⟨kept, ?_⟩
    rw [listingsExact_iff kept]
    exact listed ((listingsExact_iff recorded).mp exact_)
  · refine (listingsExact_iff initially).mpr fun key status found => ?_
    cases found

/-- The record of an account blocked by hand has the type of an address: listing the addresses
throws. -/
theorem addAccount_listing_throws : ¬ Transition.Throughout listingStep ListingsExact {}
    [(.addAccount { id := 5, account := "a" } 60, 0)] := by
  intro exact_
  obtain ⟨addresses, _, listed, _⟩ := exact_.final listingStep rfl
  exact absurd listed (by simp [BlackList.call, BlackList.addAccount, BlackList.add, BlackList.put,
    BlackList.find, BlackList.place, BlackList.firstStatus, BlackList.listIPAddresses])

end EasyViewer
