import EasyViewer.Library.Run
import EasyViewer.Library.Tables
import EasyViewer.TaskPersistence

/-!
The address book of the client: its servers and the partners on them, two tables of one SQLite
database. A statement, `BEGIN` or `COMMIT` that fails changes nothing.
-/

namespace EasyViewer

structure ServerAddress where
  name : String
  host : String
  port : UInt16
  account : String
  password : String
  publicKey : String
  activated : Bool
  deriving DecidableEq, Repr

structure PartnerAddress where
  partnerAlias : String
  userId : UserId
  authString : String
  deriving DecidableEq, Repr

structure ServerRow extends ServerAddress where
  id : Nat
  deriving DecidableEq, Repr

structure PartnerRow extends PartnerAddress where
  serverId : Nat
  deriving DecidableEq, Repr

def ServerRow.key (row : ServerRow) : String × UInt16 := (row.host, row.port)

def PartnerRow.key (row : PartnerRow) : Nat × UserId := (row.serverId, row.userId)

/-- `sequence` is the last id that `AUTOINCREMENT` has given. -/
structure AddressTables where
  servers : Table ServerRow (String × UInt16) ServerRow.key := .empty
  partners : Table PartnerRow (Nat × UserId) PartnerRow.key := .empty
  sequence : Nat := 0

abbrev ServerAddressBook := Connection AddressTables

structure SqlChances where
  begins : Bool := true
  first : Bool := true
  second : Bool := true
  commits : Bool := true
  deriving DecidableEq, Repr

namespace AddressTables

/-- What the subqueries select: no id is `NULL`, which equals nothing. -/
def serverId (tables : AddressTables) (host : String) (port : UInt16) : Option Nat :=
  (tables.servers.find? (cStr host, port)).map ServerRow.id

def insertServer (name host : String) (port : UInt16) (account password publicKey : String)
    (tables : AddressTables) : Option AddressTables :=
  (tables.servers.insert {
    id := tables.sequence + 1, name := cStr name, host := cStr host, port := port
    account := cStr account, password := cStr password, publicKey := cStr publicKey
    activated := false }).map fun servers =>
      { tables with servers := servers, sequence := tables.sequence + 1 }

def isServer (host : String) (port : UInt16) (row : ServerRow) : Bool :=
  row.host = cStr host ∧ row.port = port

def isOfServer (tables : AddressTables) (host : String) (port : UInt16) (row : PartnerRow) : Bool :=
  some row.serverId = tables.serverId host port

def deletePartners (host : String) (port : UInt16) (tables : AddressTables) :
    Option AddressTables :=
  some { tables with partners := tables.partners.delete (tables.isOfServer host port) }

def deleteServer (host : String) (port : UInt16) (tables : AddressTables) :
    Option AddressTables :=
  some { tables with servers := tables.servers.delete (isServer host port) }

def updateServer (name host : String) (port : UInt16) (account password publicKey : String)
    (tables : AddressTables) : Option AddressTables :=
  let servers := tables.servers.update
    (fun row =>
      if isServer host port row then
        { row with
          name := cStr name
          account := cStr account
          password := cStr password
          publicKey := cStr publicKey }
      else row)
    fun row => by split <;> rfl
  some { tables with servers := servers }

def deactivateServers (tables : AddressTables) : Option AddressTables :=
  let servers := tables.servers.update (fun row => { row with activated := false }) fun _ => rfl
  some { tables with servers := servers }

def activateServer (host : String) (port : UInt16) (tables : AddressTables) :
    Option AddressTables :=
  let servers := tables.servers.update
    (fun row => if isServer host port row then { row with activated := true } else row)
    fun row => by split <;> rfl
  some { tables with servers := servers }

/-- `INSERT OR IGNORE`: neither `NULL` for the server nor a partner that is stored already is an
error. -/
def insertPartner (host : String) (port : UInt16) (partnerAlias : String) (userId : UserId)
    (authString : String) (tables : AddressTables) : Option AddressTables :=
  match tables.serverId host port with
  | none => some tables
  | some id =>
      match tables.partners.insert {
          serverId := id, partnerAlias := cStr partnerAlias, userId := userId
          authString := cStr authString } with
      | none => some tables
      | some partners => some { tables with partners := partners }

def isPartner (tables : AddressTables) (host : String) (port : UInt16) (userId : UserId)
    (row : PartnerRow) : Bool :=
  tables.isOfServer host port row ∧ row.userId = userId

def updatePartner (host : String) (port : UInt16) (partnerAlias : String) (userId : UserId)
    (authString : String) (tables : AddressTables) : Option AddressTables :=
  let partners := tables.partners.update
    (fun row =>
      if tables.isPartner host port userId row then
        { row with partnerAlias := cStr partnerAlias, authString := cStr authString }
      else row)
    fun row => by split <;> rfl
  some { tables with partners := partners }

def deletePartner (host : String) (port : UInt16) (userId : UserId) (tables : AddressTables) :
    Option AddressTables :=
  some { tables with partners := tables.partners.delete (tables.isPartner host port userId) }

end AddressTables

namespace ServerAddressBook

def executed (book : ServerAddressBook) (succeeds : Bool)
    (statement : AddressTables → Option AddressTables) : Bool × ServerAddressBook :=
  match book.execute succeeds statement with
  | some book => (true, book)
  | none => (false, book)

/-- Two statements and the commit; whatever fails leads to the roll-back. -/
def executedBoth (book : ServerAddressBook) (chances : SqlChances)
    (first second : AddressTables → Option AddressTables) : Bool × ServerAddressBook :=
  match book.execute chances.first first with
  | none => (false, book.rollback)
  | some book =>
      match book.execute chances.second second with
      | none => (false, book.rollback)
      | some book =>
          match book.commit chances.commits with
          | none => (false, book.rollback)
          | some book => (true, book)

def addServerAddress (book : ServerAddressBook) (chances : SqlChances) (name host : String)
    (port : UInt16) (account password publicKey : String) : Bool × ServerAddressBook :=
  book.executed chances.first (AddressTables.insertServer name host port account password publicKey)

/-- It goes on when there is no transaction. -/
def removeServerAddress (book : ServerAddressBook) (chances : SqlChances) (host : String)
    (port : UInt16) : Bool × ServerAddressBook :=
  executedBoth ((book.transaction chances.begins).getD book) chances
    (AddressTables.deletePartners host port) (AddressTables.deleteServer host port)

def updateServerAddress (book : ServerAddressBook) (chances : SqlChances) (name host : String)
    (port : UInt16) (account password publicKey : String) : Bool × ServerAddressBook :=
  book.executed chances.first (AddressTables.updateServer name host port account password publicKey)

def listServerAddress (book : ServerAddressBook) (chances : SqlChances) :
    Option (List ServerAddress) :=
  if chances.first then some (book.data.servers.rows.map ServerRow.toServerAddress) else none

def activateServerAddress (book : ServerAddressBook) (chances : SqlChances) (host : String)
    (port : UInt16) : Bool × ServerAddressBook :=
  match book.transaction chances.begins with
  | none => (false, book)
  | some book => executedBoth book chances AddressTables.deactivateServers
      (AddressTables.activateServer host port)

def addPartnerAddress (book : ServerAddressBook) (chances : SqlChances) (host : String)
    (port : UInt16) (partnerAlias : String) (userId : UserId) (authString : String) :
    Bool × ServerAddressBook :=
  book.executed chances.first (AddressTables.insertPartner host port partnerAlias userId authString)

def updatePartnerAddress (book : ServerAddressBook) (chances : SqlChances) (host : String)
    (port : UInt16) (partnerAlias : String) (userId : UserId) (authString : String) :
    Bool × ServerAddressBook :=
  book.executed chances.first (AddressTables.updatePartner host port partnerAlias userId authString)

def removePartnerAddress (book : ServerAddressBook) (chances : SqlChances) (host : String)
    (port : UInt16) (userId : UserId) : Bool × ServerAddressBook :=
  let (works, after) := book.executed chances.first (AddressTables.deletePartner host port userId)
  (works && book.data.partners.rows.any (book.data.isPartner host port userId), after)

def listPartnerAddress (book : ServerAddressBook) (chances : SqlChances) (host : String)
    (port : UInt16) : Option (List PartnerAddress) :=
  if chances.first then
    some ((book.data.partners.rows.filter (book.data.isOfServer host port)).map
      PartnerRow.toPartnerAddress)
  else none

/-- Without a row `dst` stays as it was, and the operation has worked. -/
def getPartnerAddress (book : ServerAddressBook) (chances : SqlChances) (host : String)
    (port : UInt16) (userId : UserId) (dst : PartnerAddress) : Bool × PartnerAddress :=
  if chances.first then
    match book.data.partners.rows.find? (book.data.isPartner host port userId) with
    | some row => (true, row.toPartnerAddress)
    | none => (true, dst)
  else (false, dst)

end ServerAddressBook

inductive AddressOperation where
  | addServerAddress (name host : String) (port : UInt16) (account password publicKey : String)
  | removeServerAddress (host : String) (port : UInt16)
  | updateServerAddress (name host : String) (port : UInt16)
      (account password publicKey : String)
  | listServerAddress
  | activateServerAddress (host : String) (port : UInt16)
  | addPartnerAddress (host : String) (port : UInt16) (partnerAlias : String) (userId : UserId)
      (authString : String)
  | updatePartnerAddress (host : String) (port : UInt16) (partnerAlias : String) (userId : UserId)
      (authString : String)
  | removePartnerAddress (host : String) (port : UInt16) (userId : UserId)
  | listPartnerAddress (host : String) (port : UInt16)
  | getPartnerAddress (host : String) (port : UInt16) (userId : UserId) (dst : PartnerAddress)
  deriving DecidableEq, Repr

namespace ServerAddressBook

def perform (book : ServerAddressBook) (chances : SqlChances) :
    AddressOperation → Bool × ServerAddressBook
  | .addServerAddress name host port account password publicKey =>
      book.addServerAddress chances name host port account password publicKey
  | .removeServerAddress host port => book.removeServerAddress chances host port
  | .updateServerAddress name host port account password publicKey =>
      book.updateServerAddress chances name host port account password publicKey
  | .listServerAddress => ((book.listServerAddress chances).isSome, book)
  | .activateServerAddress host port => book.activateServerAddress chances host port
  | .addPartnerAddress host port partnerAlias userId authString =>
      book.addPartnerAddress chances host port partnerAlias userId authString
  | .updatePartnerAddress host port partnerAlias userId authString =>
      book.updatePartnerAddress chances host port partnerAlias userId authString
  | .removePartnerAddress host port userId => book.removePartnerAddress chances host port userId
  | .listPartnerAddress host port => ((book.listPartnerAddress chances host port).isSome, book)
  | .getPartnerAddress host port userId dst =>
      ((book.getPartnerAddress chances host port userId dst).1, book)

def step (book : ServerAddressBook) (event : AddressOperation × SqlChances) :
    Option ServerAddressBook :=
  some (book.perform event.2 event.1).2

end ServerAddressBook

/-- At most one server is activated, and every partner is one of a server. -/
structure AddressTables.Consistent (tables : AddressTables) : Prop where
  activated : (tables.servers.rows.countP fun server => server.activated) ≤ 1
  referred : ∀ partner ∈ tables.partners.rows, ∃ server ∈ tables.servers.rows,
    server.id = partner.serverId

namespace ServerAddressBook

def KeepsOnFailure (book : ServerAddressBook) (event : AddressOperation × SqlChances) : Prop :=
  (book.perform event.2 event.1).1 = false →
    (book.perform event.2 event.1).2.data.servers = book.data.servers ∧
      (book.perform event.2 event.1).2.data.partners = book.data.partners

def RemovesUnguarded (book : ServerAddressBook) (event : AddressOperation × SqlChances) : Prop :=
  ∃ host port server, event.1 = .removeServerAddress host port ∧ event.2.begins = false ∧
    event.2.first = true ∧ book.data.servers.find? (cStr host, port) = some server ∧
    (event.2.second = true ∨ ∃ partner ∈ book.data.partners.rows, partner.serverId = server.id)

end ServerAddressBook

namespace AddressTables

variable {tables next : AddressTables} {host : String} {port : UInt16}

theorem isServer_iff {row : ServerRow} : isServer host port row = true ↔
    row.key = (cStr host, port) := by
  simp [isServer, ServerRow.key]

theorem serverId_eq_some {id : Nat} : tables.serverId host port = some id ↔
    ∃ server, tables.servers.find? (cStr host, port) = some server ∧ server.id = id := by
  rw [serverId, Option.map_eq_some_iff]

theorem deleteServer_nothing : tables.servers.delete (isServer host port) = tables.servers ↔
    tables.servers.find? (cStr host, port) = none := by
  rw [Table.delete_eq_self, Table.find?_eq_none]
  refine forall₂_congr fun row _ => ?_
  rw [Ne, ← isServer_iff, Bool.not_eq_true]

theorem deletePartners_nothing :
    tables.partners.delete (tables.isOfServer host port) = tables.partners ↔
      ∀ server, tables.servers.find? (cStr host, port) = some server →
        ∀ partner ∈ tables.partners.rows, partner.serverId ≠ server.id := by
  rw [Table.delete_eq_self]
  constructor
  · intro none server found partner member same
    have selected : tables.serverId host port = some server.id :=
      serverId_eq_some.mpr ⟨server, found, rfl⟩
    have other := none partner member
    simp [isOfServer, selected, same] at other
  · intro none partner member
    by_contra chosen
    simp only [isOfServer, decide_eq_false_iff_not, not_not] at chosen
    obtain ⟨server, found, same⟩ := serverId_eq_some.mp chosen.symm
    exact none server found partner member same.symm

namespace Consistent

theorem initial : Consistent {} := ⟨Nat.zero_le _, fun _ member => absurd member List.not_mem_nil⟩

theorem insertServer (consistent : tables.Consistent)
    {name account password publicKey : String}
    (inserted : AddressTables.insertServer name host port account password publicKey tables =
      some next) : next.Consistent := by
  obtain ⟨servers, new, rfl⟩ := Option.map_eq_some_iff.mp inserted
  obtain ⟨_, rows⟩ := Table.insert_eq_some.mp new
  refine ⟨?_, fun partner member => ?_⟩
  · simp only [rows, List.countP_append, List.countP_cons, List.countP_nil, Bool.false_eq_true,
      if_false, Nat.add_zero]
    exact consistent.activated
  · obtain ⟨server, stored, same⟩ := consistent.referred partner member
    refine ⟨server, ?_, same⟩
    simp only [rows]
    exact List.mem_append_left _ stored

theorem updateServers (consistent : tables.Consistent) {change : ServerRow → ServerRow}
    (keeps : ∀ row, (change row).key = row.key) (ids : ∀ row, (change row).id = row.id)
    (activated : ∀ row, (change row).activated = true → row.activated = true) :
    ({ tables with servers := tables.servers.update change keeps } : AddressTables).Consistent := by
  refine ⟨?_, fun partner member => ?_⟩
  · simp only [Table.update, List.countP_map]
    exact Nat.le_trans (List.countP_mono_left fun row _ => activated row) consistent.activated
  · obtain ⟨server, stored, same⟩ := consistent.referred partner member
    exact ⟨change server, List.mem_map.mpr ⟨server, stored, rfl⟩, (ids server).trans same⟩

theorem updateServer (consistent : tables.Consistent)
    {name account password publicKey : String}
    (updated : AddressTables.updateServer name host port account password publicKey tables =
      some next) : next.Consistent := by
  cases updated
  refine consistent.updateServers _ (fun row => ?_) fun row => ?_
  · split <;> rfl
  · split
    · exact id
    · exact id

theorem activate (consistent : tables.Consistent) {middle : AddressTables}
    (deactivated : tables.deactivateServers = some middle)
    (activated : AddressTables.activateServer host port middle = some next) : next.Consistent := by
  cases deactivated
  cases activated
  refine ⟨?_, fun partner member => ?_⟩
  · refine @Table.countP_le_one _ _ _ _ _ (cStr host, port) fun row member isActive => ?_
    obtain ⟨row, inactive, rfl⟩ := List.mem_map.mp member
    obtain ⟨before, _, rfl⟩ := List.mem_map.mp inactive
    simp only at isActive ⊢
    split at isActive
    · rename_i chosen
      rw [if_pos chosen]
      exact isServer_iff.mp chosen
    · contradiction
  · obtain ⟨server, stored, same⟩ := consistent.referred partner member
    refine ⟨_, List.mem_map.mpr ⟨_, List.mem_map.mpr ⟨server, stored, rfl⟩, rfl⟩, ?_⟩
    split
    · exact same
    · exact same

theorem deleteRows (consistent : tables.Consistent) (chosen : PartnerRow → Bool) :
    ({ tables with partners := tables.partners.delete chosen } : AddressTables).Consistent :=
  ⟨consistent.activated, fun partner member =>
    consistent.referred partner (Table.mem_delete.mp member).1⟩

theorem remove (consistent : tables.Consistent) {middle : AddressTables}
    (partners : AddressTables.deletePartners host port tables = some middle)
    (server : AddressTables.deleteServer host port middle = some next) : next.Consistent := by
  cases partners
  cases server
  refine ⟨?_, fun partner member => ?_⟩
  · exact Nat.le_trans (List.Sublist.countP_le (List.filter_sublist)) consistent.activated
  · obtain ⟨stored, other⟩ := Table.mem_delete.mp member
    obtain ⟨server, kept, same⟩ := consistent.referred partner stored
    refine ⟨server, Table.mem_delete.mpr ⟨kept, ?_⟩, same⟩
    by_contra chosen
    have selected : tables.serverId host port = some server.id :=
      serverId_eq_some.mpr ⟨server, Table.find?_eq_some.mpr
        ⟨kept, isServer_iff.mp (by simpa using chosen)⟩, rfl⟩
    simp [isOfServer, selected, same] at other

theorem insertPartner (consistent : tables.Consistent) {partnerAlias authString : String}
    {userId : UserId} (inserted : AddressTables.insertPartner host port partnerAlias userId
      authString tables = some next) : next.Consistent := by
  rw [AddressTables.insertPartner] at inserted
  split at inserted
  · cases inserted
    exact consistent
  · rename_i id selected
    split at inserted
    · cases inserted
      exact consistent
    · rename_i partners new
      cases inserted
      obtain ⟨_, rows⟩ := Table.insert_eq_some.mp new
      refine ⟨consistent.activated, fun partner member => ?_⟩
      simp only [rows] at member
      rcases List.mem_append.mp member with before | isNew
      · exact consistent.referred partner before
      · obtain ⟨server, found, same⟩ := serverId_eq_some.mp selected
        rw [List.mem_singleton.mp isNew]
        exact ⟨server, (Table.find?_eq_some.mp found).1, same⟩

theorem updatePartner (consistent : tables.Consistent) {partnerAlias authString : String}
    {userId : UserId} (updated : AddressTables.updatePartner host port partnerAlias userId
      authString tables = some next) : next.Consistent := by
  cases updated
  refine ⟨consistent.activated, fun partner member => ?_⟩
  obtain ⟨before, stored, rfl⟩ := List.mem_map.mp member
  obtain ⟨server, kept, same⟩ := consistent.referred before stored
  refine ⟨server, kept, ?_⟩
  split
  · exact same
  · exact same

end Consistent

end AddressTables

namespace ServerAddressBook

structure Regular (book : ServerAddressBook) : Prop where
  idle : book.saved = none
  consistent : book.data.Consistent

variable {book : ServerAddressBook} {succeeds : Bool}
  {statement first second : AddressTables → Option AddressTables}

theorem executed_regular (regular : Regular book)
    (keeps : ∀ next, statement book.data = some next → next.Consistent) :
    Regular (book.executed succeeds statement).2 := by
  rw [executed]
  split
  · rename_i after works
    obtain ⟨_, data, stated, rfl⟩ := Connection.execute_eq_some.mp works
    exact ⟨regular.idle, keeps data stated⟩
  · exact regular

theorem executed_failed (failed : (book.executed succeeds statement).1 = false) :
    (book.executed succeeds statement).2 = book := by
  rw [executed] at failed ⊢
  split at failed
  · contradiction
  · rfl

/-- In a transaction both statements are done, or all is as when it began. -/
theorem executedBoth_begun (chances : SqlChances) {data : AddressTables}
    (consistent : data.Consistent) (keeps : ∀ middle next, first data = some middle →
      second middle = some next → next.Consistent) :
    Regular (executedBoth { data := data, saved := some data } chances first second).2 ∧
      ((executedBoth { data := data, saved := some data } chances first second).1 = false →
        (executedBoth { data := data, saved := some data } chances first second).2.data = data) := by
  have back : ∀ now : AddressTables, Regular (Connection.rollback
      { data := now, saved := some data }) := fun _ => ⟨rfl, consistent⟩
  rw [executedBoth]
  split
  · exact ⟨back data, fun _ => rfl⟩
  · rename_i works
    obtain ⟨_, middle, stated, rfl⟩ := Connection.execute_eq_some.mp works
    split
    · exact ⟨back middle, fun _ => rfl⟩
    · rename_i worksToo
      obtain ⟨_, next, statedToo, rfl⟩ := Connection.execute_eq_some.mp worksToo
      split
      · exact ⟨back next, fun _ => rfl⟩
      · rename_i committed
        obtain ⟨_, _, rfl⟩ := Connection.commit_eq_some.mp committed
        exact ⟨⟨rfl, keeps middle next stated statedToo⟩, fun failed => by contradiction⟩

theorem executedBoth_idle (chances : SqlChances) {data middle next : AddressTables}
    (stated : first data = some middle) (statedToo : second middle = some next) :
    executedBoth { data := data } chances first second =
      (false, { data :=
        if chances.first then if chances.second then next else middle else data }) := by
  obtain ⟨begins, works, worksToo, commits⟩ := chances
  cases works with
  | false => rfl
  | true =>
      simp only [executedBoth, Connection.execute, if_true, stated, Option.map_some]
      cases worksToo with
      | false => rfl
      | true => simp [statedToo, Connection.commit, Connection.rollback]

theorem activateServerAddress_regular (regular : Regular book) (chances : SqlChances)
    (host : String) (port : UInt16) :
    Regular (book.activateServerAddress chances host port).2 ∧
      ((book.activateServerAddress chances host port).1 = false →
        (book.activateServerAddress chances host port).2.data = book.data) := by
  rw [activateServerAddress]
  split
  · exact ⟨regular, fun _ => rfl⟩
  · rename_i begun
    obtain ⟨_, _, rfl⟩ := Connection.transaction_eq_some.mp begun
    exact executedBoth_begun chances regular.consistent fun _ _ => regular.consistent.activate

def unguarded (tables : AddressTables) (chances : SqlChances) (host : String) (port : UInt16) :
    AddressTables :=
  if chances.first then
    { tables with
      servers :=
        if chances.second then tables.servers.delete (AddressTables.isServer host port)
        else tables.servers
      partners := tables.partners.delete (tables.isOfServer host port) }
  else tables

theorem removeServerAddress_unguarded (idle : book.saved = none) {chances : SqlChances}
    (begins : chances.begins = false) (host : String) (port : UInt16) :
    book.removeServerAddress chances host port =
      (false, { data := unguarded book.data chances host port }) := by
  obtain ⟨tables, saved⟩ := book
  cases idle
  have outcome : executedBoth { data := tables } chances (AddressTables.deletePartners host port)
      (AddressTables.deleteServer host port) = _ := executedBoth_idle chances rfl rfl
  rw [removeServerAddress, Connection.transaction, begins, if_neg (by simp), Option.getD_none,
    outcome, unguarded]
  cases chances.first <;> cases chances.second <;> rfl

theorem unguarded_keeps {tables : AddressTables} {chances : SqlChances} {host : String}
    {port : UInt16} :
    (unguarded tables chances host port).servers = tables.servers ∧
        (unguarded tables chances host port).partners = tables.partners ↔
      ¬ ∃ server, chances.first = true ∧ tables.servers.find? (cStr host, port) = some server ∧
        (chances.second = true ∨ ∃ partner ∈ tables.partners.rows, partner.serverId = server.id) := by
  rw [unguarded]
  cases works : chances.first with
  | false => simp
  | true =>
      simp only [if_true, AddressTables.deletePartners_nothing, true_and, not_exists, not_and, not_or]
      cases worksToo : chances.second with
      | false => simp
      | true =>
          simp only [if_true, AddressTables.deleteServer_nothing]
          constructor
          · rintro ⟨none, _⟩ server found
            rw [none] at found
            contradiction
          · intro nothing
            cases found : tables.servers.find? (cStr host, port) with
            | none => exact ⟨rfl, fun _ isFound => by contradiction⟩
            | some server => exact absurd trivial (nothing server found).1

theorem removeServerAddress_regular (regular : Regular book) (chances : SqlChances)
    (host : String) (port : UInt16) :
    Regular (book.removeServerAddress chances host port).2 ∧
      (KeepsOnFailure book (.removeServerAddress host port, chances) ↔
        ¬ RemovesUnguarded book (.removeServerAddress host port, chances)) := by
  simp only [KeepsOnFailure, perform]
  cases begins : chances.begins with
  | true =>
      have begun : book.transaction chances.begins =
          some { data := book.data, saved := some book.data } :=
        Connection.transaction_eq_some.mpr ⟨begins, regular.idle, rfl⟩
      have keeps : ∀ middle next, AddressTables.deletePartners host port book.data = some middle →
          AddressTables.deleteServer host port middle = some next → next.Consistent :=
        fun _ _ => regular.consistent.remove
      obtain ⟨kept, unchanged⟩ := executedBoth_begun chances regular.consistent keeps
      rw [removeServerAddress, begun, Option.getD_some]
      refine ⟨kept, iff_of_true (fun failed => ?_) ?_⟩
      · rw [unchanged failed]
        exact ⟨rfl, rfl⟩
      · rintro ⟨_, _, _, _, fails, _⟩
        rw [begins] at fails
        contradiction
  | false =>
      rw [removeServerAddress_unguarded regular.idle begins]
      refine ⟨⟨rfl, ?_⟩, ?_⟩
      · simp only [unguarded]
        split
        · split
          · exact regular.consistent.remove rfl rfl
          · exact regular.consistent.deleteRows _
        · exact regular.consistent
      · simp only [forall_const, unguarded_keeps, not_iff_not]
        constructor
        · rintro ⟨server, works, found, removes⟩
          exact ⟨host, port, server, rfl, begins, works, found, removes⟩
        · rintro ⟨_, _, server, same, _, works, found, removes⟩
          cases same
          exact ⟨server, works, found, removes⟩

theorem removePartnerAddress_regular (regular : Regular book) (chances : SqlChances)
    (host : String) (port : UInt16) (userId : UserId) :
    Regular (book.removePartnerAddress chances host port userId).2 ∧
      ((book.removePartnerAddress chances host port userId).1 = false →
        (book.removePartnerAddress chances host port userId).2.data = book.data) := by
  refine ⟨executed_regular regular fun _ deleted => ?_, fun failed => ?_⟩
  · cases deleted
    exact regular.consistent.deleteRows _
  · simp only [removePartnerAddress, Bool.and_eq_false_iff] at failed ⊢
    rcases failed with fails | none
    · exact congrArg Connection.data (executed_failed fails)
    · have same : book.data.partners.delete (book.data.isPartner host port userId) =
          book.data.partners := by
        rw [Table.delete_eq_self]
        intro row member
        by_contra chosen
        have any := List.any_eq_false.mp none row member
        exact any (by simpa using chosen)
      rw [executed]
      split
      · rename_i works
        obtain ⟨_, data, stated, rfl⟩ := Connection.execute_eq_some.mp works
        cases stated
        simp only [same]
      · rfl

theorem perform_regular (regular : Regular book) (event : AddressOperation × SqlChances) :
    Regular (book.perform event.2 event.1).2 ∧
      (KeepsOnFailure book event ↔ ¬ RemovesUnguarded book event) := by
  obtain ⟨operation, chances⟩ := event
  have others : (∀ host port, operation ≠ .removeServerAddress host port) →
      ((book.perform chances operation).1 = false →
        (book.perform chances operation).2.data = book.data) →
      (KeepsOnFailure book (operation, chances) ↔ ¬ RemovesUnguarded book (operation, chances)) := by
    intro other unchanged
    refine iff_of_true (fun failed => ?_) ?_
    · have same := unchanged failed
      simp only at same ⊢
      rw [same]
      exact ⟨rfl, rfl⟩
    · rintro ⟨host, port, _, same, _⟩
      exact other host port same
  cases operation with
  | removeServerAddress host port => exact removeServerAddress_regular regular chances host port
  | activateServerAddress host port =>
      obtain ⟨kept, unchanged⟩ := activateServerAddress_regular regular chances host port
      exact ⟨kept, others (by simp) unchanged⟩
  | addServerAddress name host port account password publicKey =>
      refine ⟨executed_regular regular fun _ => regular.consistent.insertServer,
        others (by simp) fun failed => ?_⟩
      exact congrArg Connection.data (executed_failed failed)
  | updateServerAddress name host port account password publicKey =>
      refine ⟨executed_regular regular fun _ => regular.consistent.updateServer,
        others (by simp) fun failed => ?_⟩
      exact congrArg Connection.data (executed_failed failed)
  | listServerAddress => exact ⟨regular, others (by simp) fun _ => rfl⟩
  | addPartnerAddress host port partnerAlias userId authString =>
      refine ⟨executed_regular regular fun _ => regular.consistent.insertPartner,
        others (by simp) fun failed => ?_⟩
      exact congrArg Connection.data (executed_failed failed)
  | updatePartnerAddress host port partnerAlias userId authString =>
      refine ⟨executed_regular regular fun _ => regular.consistent.updatePartner,
        others (by simp) fun failed => ?_⟩
      exact congrArg Connection.data (executed_failed failed)
  | removePartnerAddress host port userId =>
      obtain ⟨kept, unchanged⟩ := removePartnerAddress_regular regular chances host port userId
      exact ⟨kept, others (by simp) unchanged⟩
  | listPartnerAddress host port => exact ⟨regular, others (by simp) fun _ => rfl⟩
  | getPartnerAddress host port userId dst => exact ⟨regular, others (by simp) fun _ => rfl⟩

theorem regular_initial : Regular { data := {} } := ⟨rfl, AddressTables.Consistent.initial⟩

theorem Regular.step {next : ServerAddressBook} {event : AddressOperation × SqlChances}
    (regular : Regular book) (stepped : step book event = some next) : Regular next := by
  cases stepped
  exact (perform_regular regular event).1

end ServerAddressBook

open ServerAddressBook in
/-- In every sequence of operations the tables stay consistent, and no failure changes them, just
when no server is removed without a transaction. -/
theorem addressBook_consistent_iff (events : List (AddressOperation × SqlChances)) :
    Transition.Throughout step (fun book => book.data.Consistent) { data := {} } events ∧
        Transition.Happening step KeepsOnFailure { data := {} } events ↔
      Transition.Happening step (fun book event => ¬ RemovesUnguarded book event) { data := {} }
        events := by
  have always : Transition.Throughout step Regular { data := {} } events :=
    .of_step step (fun _ _ _ regular => regular.step) regular_initial
  have consistent := always.mono step fun _ regular => regular.consistent
  rw [and_iff_right consistent]
  exact Transition.Happening.congr step Regular (fun _ _ _ regular => regular.step)
    (fun _ event regular => (perform_regular regular event).2) regular_initial events

/-- `BEGIN` fails, and the server is gone although the operation has failed. -/
theorem unguarded_removal_changes :
    ¬ (Transition.Throughout ServerAddressBook.step (fun book => book.data.Consistent)
        { data := {} }
        [(.addServerAddress "home" "10.0.0.1" 5000 "user" "secret" "", {}),
          (.removeServerAddress "10.0.0.1" 5000, { begins := false })] ∧
      Transition.Happening ServerAddressBook.step ServerAddressBook.KeepsOnFailure { data := {} }
        [(.addServerAddress "home" "10.0.0.1" 5000 "user" "secret" "", {}),
          (.removeServerAddress "10.0.0.1" 5000, { begins := false })]) := by
  rintro ⟨_, keeps⟩
  have kept := ((keeps.2 _ rfl).1 _ rfl rfl).1
  have rows := congrArg (fun table => table.rows.length) kept
  exact absurd rows (by decide)

namespace ServerAddressBook

variable {book : ServerAddressBook} {chances : SqlChances} {host : String} {port : UInt16}
  {partnerAlias : String} {userId : UserId} {authString : String}

/-- The partner can be read back as it was given, and no other row has changed. -/
structure ReadsBack (book after : ServerAddressBook) (host : String) (port : UInt16)
    (partnerAlias : String) (userId : UserId) (authString : String) : Prop where
  reads : ∀ dst, after.getPartnerAddress {} host port userId dst =
    (true, { partnerAlias := partnerAlias, userId := userId, authString := authString })
  others : after.data.partners.rows.filter (fun row => !after.data.isPartner host port userId row) =
    book.data.partners.rows.filter fun row => !book.data.isPartner host port userId row

/-- The server is known; a partner that is not stored has texts without `NUL`, and one that is
stored has the texts already. -/
def Storable (book : ServerAddressBook) (host : String) (port : UInt16) (partnerAlias : String)
    (userId : UserId) (authString : String) : Prop :=
  ∃ id, book.data.serverId host port = some id ∧
    match book.data.partners.find? (id, userId) with
    | none => '\x00' ∉ partnerAlias.toList ∧ '\x00' ∉ authString.toList
    | some row => row.partnerAlias = partnerAlias ∧ row.authString = authString

theorem isPartner_iff {tables : AddressTables} {id : Nat}
    (selected : tables.serverId host port = some id) (row : PartnerRow) :
    tables.isPartner host port userId row = true ↔ row.key = (id, userId) := by
  simp [AddressTables.isPartner, AddressTables.isOfServer, selected, PartnerRow.key]

theorem isPartner_unknown {tables : AddressTables} (unknown : tables.serverId host port = none)
    (row : PartnerRow) : tables.isPartner host port userId row = false := by
  simp [AddressTables.isPartner, AddressTables.isOfServer, unknown]

theorem getPartnerAddress_unknown (unknown : book.data.serverId host port = none)
    (dst : PartnerAddress) : book.getPartnerAddress {} host port userId dst = (true, dst) := by
  have none : book.data.partners.rows.find? (book.data.isPartner host port userId) = none := by
    rw [List.find?_eq_none]
    intro row _
    rw [isPartner_unknown unknown]
    exact Bool.false_ne_true
  rw [getPartnerAddress, if_pos rfl, none]

theorem getPartnerAddress_known {id : Nat} (selected : book.data.serverId host port = some id)
    (dst : PartnerAddress) : book.getPartnerAddress {} host port userId dst =
      (true, ((book.data.partners.find? (id, userId)).map PartnerRow.toPartnerAddress).getD dst) := by
  have same : book.data.isPartner host port userId =
      fun row : PartnerRow => decide (row.key = (id, userId)) := by
    funext row
    rw [Bool.eq_iff_iff, isPartner_iff selected, decide_eq_true_iff]
  rw [getPartnerAddress, if_pos rfl, same, Table.find?]
  split
  · rename_i row found
    rw [found]
    rfl
  · rename_i none
    rw [none]
    rfl

theorem readsBack_unknown (unknown : book.data.serverId host port = none) :
    ¬ ReadsBack book book host port partnerAlias userId authString := by
  intro back
  have read := back.reads { partnerAlias := "", userId := userId + 1, authString := "" }
  rw [getPartnerAddress_unknown unknown] at read
  have same : userId + 1 = userId := congrArg (fun answer => answer.2.userId) read
  exact absurd same (Int.ne_of_gt (Int.lt_succ userId))

theorem readsBack_stored {id : Nat} {row : PartnerRow}
    (selected : book.data.serverId host port = some id)
    (found : book.data.partners.find? (id, userId) = some row) :
    ReadsBack book book host port partnerAlias userId authString ↔
      row.partnerAlias = partnerAlias ∧ row.authString = authString := by
  have read : ∀ dst, book.getPartnerAddress {} host port userId dst =
      (true, row.toPartnerAddress) := by
    intro dst
    rw [getPartnerAddress_known selected, found]
    rfl
  have key := (Table.find?_eq_some.mp found).2
  have isUser : row.userId = userId := congrArg Prod.snd key
  constructor
  · intro back
    have same := (read { partnerAlias := "", userId := 0, authString := "" }).symm.trans
      (back.reads _)
    have address := congrArg Prod.snd same
    exact ⟨congrArg PartnerAddress.partnerAlias address, congrArg PartnerAddress.authString address⟩
  · rintro ⟨rfl, rfl⟩
    refine ⟨fun dst => ?_, rfl⟩
    rw [read, ← isUser]

theorem insertPartner_new {tables : AddressTables} {id : Nat}
    (selected : tables.serverId host port = some id)
    (free : tables.partners.find? (id, userId) = none) :
    ∃ partners, AddressTables.insertPartner host port partnerAlias userId authString tables =
        some { tables with partners := partners } ∧
      partners.rows = tables.partners.rows ++ [{
        serverId := id, partnerAlias := cStr partnerAlias, userId := userId
        authString := cStr authString }] := by
  rw [AddressTables.insertPartner, selected]
  simp only
  split
  · rename_i taken
    exact absurd free (Table.insert_eq_none.mp taken)
  · rename_i partners new
    exact ⟨partners, rfl, (Table.insert_eq_some.mp new).2⟩

theorem insertPartner_stored {tables : AddressTables} {id : Nat} {row : PartnerRow}
    (selected : tables.serverId host port = some id)
    (found : tables.partners.find? (id, userId) = some row) :
    AddressTables.insertPartner host port partnerAlias userId authString tables =
      some tables := by
  rw [AddressTables.insertPartner, selected]
  simp only
  split
  · rfl
  · rename_i partners new
    have free : tables.partners.find? (id, userId) = none := (Table.insert_eq_some.mp new).1
    rw [found] at free
    contradiction

theorem readsBack_new {after : ServerAddressBook} {id : Nat}
    (selected : book.data.serverId host port = some id)
    (servers : after.data.servers = book.data.servers)
    (rows : after.data.partners.rows = book.data.partners.rows ++ [{
      serverId := id, partnerAlias := cStr partnerAlias, userId := userId
      authString := cStr authString }]) :
    ReadsBack book after host port partnerAlias userId authString ↔
      '\x00' ∉ partnerAlias.toList ∧ '\x00' ∉ authString.toList := by
  have selectedToo : after.data.serverId host port = some id := by
    rw [AddressTables.serverId, servers]
    exact selected
  have found : after.data.partners.find? (id, userId) = some {
      serverId := id, partnerAlias := cStr partnerAlias, userId := userId
      authString := cStr authString } := by
    rw [Table.find?_eq_some, rows]
    exact ⟨List.mem_append_right _ (List.mem_singleton_self _), rfl⟩
  have read : ∀ dst, after.getPartnerAddress {} host port userId dst = (true, {
      partnerAlias := cStr partnerAlias, userId := userId, authString := cStr authString }) := by
    intro dst
    rw [getPartnerAddress_known selectedToo, found]
    rfl
  rw [← cStr_eq_self, ← cStr_eq_self]
  constructor
  · intro back
    have same := (read { partnerAlias := "", userId := 0, authString := "" }).symm.trans
      (back.reads _)
    have address := congrArg Prod.snd same
    exact ⟨congrArg PartnerAddress.partnerAlias address, congrArg PartnerAddress.authString address⟩
  · rintro ⟨whole, wholeToo⟩
    refine ⟨fun dst => ?_, ?_⟩
    · rw [read, whole, wholeToo]
    · have chosen : after.data.isPartner host port userId {
          serverId := id, partnerAlias := cStr partnerAlias, userId := userId
          authString := cStr authString } = true := (isPartner_iff selectedToo _).mpr rfl
      have same : after.data.isPartner host port userId = book.data.isPartner host port userId := by
        funext row
        rw [Bool.eq_iff_iff, isPartner_iff selected, isPartner_iff selectedToo]
      rw [rows, List.filter_append, List.filter_cons, if_neg (by simp [chosen]), List.filter_nil,
        List.append_nil, same]

end ServerAddressBook

open ServerAddressBook in
/-- What was added can be read back just when it is storable, or was refused. -/
theorem addPartnerAddress_reads_back_iff (book : ServerAddressBook) (chances : SqlChances)
    (host : String) (port : UInt16) (partnerAlias : String) (userId : UserId)
    (authString : String) :
    ((book.addPartnerAddress chances host port partnerAlias userId authString).1 = true →
      ReadsBack book (book.addPartnerAddress chances host port partnerAlias userId authString).2
        host port partnerAlias userId authString) ↔
      (chances.first = false ∨ Storable book host port partnerAlias userId authString) := by
  cases works : chances.first with
  | false =>
      have failed : book.addPartnerAddress chances host port partnerAlias userId authString =
          (false, book) := by
        simp [addPartnerAddress, executed, Connection.execute, works]
      rw [failed]
      exact iff_of_true Bool.noConfusion (.inl rfl)
  | true =>
      have stated : ∀ tables, AddressTables.insertPartner host port partnerAlias userId authString
          book.data = some tables →
          book.addPartnerAddress chances host port partnerAlias userId authString =
            (true, { book with data := tables }) := by
        intro tables inserted
        simp [addPartnerAddress, executed, Connection.execute, works, inserted]
      have refused : Bool.true ≠ false := Bool.noConfusion
      rw [or_iff_right refused, Storable]
      cases selected : book.data.serverId host port with
      | none =>
          rw [stated book.data (by rw [AddressTables.insertPartner, selected])]
          refine iff_of_false (fun claimed => readsBack_unknown selected (claimed rfl)) ?_
          simp
      | some id =>
          simp only [Option.some.injEq, exists_eq_left']
          cases found : book.data.partners.find? (id, userId) with
          | none =>
              obtain ⟨partners, inserted, rows⟩ := insertPartner_new selected found
              rw [stated _ inserted]
              exact Iff.trans ⟨fun claimed => claimed rfl, fun back _ => back⟩
                (readsBack_new selected rfl rows)
          | some row =>
              rw [stated _ (insertPartner_stored selected found)]
              exact Iff.trans ⟨fun claimed => claimed rfl, fun back _ => back⟩
                (readsBack_stored selected found)

/-- No server is stored, and the partner is said to be added. -/
theorem addPartnerAddress_unknown_server :
    ¬ ((ServerAddressBook.addPartnerAddress { data := {} } {} "10.0.0.1" 5000 "desk" 7 "secret").1 =
        true →
      ServerAddressBook.ReadsBack { data := {} }
        (ServerAddressBook.addPartnerAddress { data := {} } {} "10.0.0.1" 5000 "desk" 7 "secret").2
        "10.0.0.1" 5000 "desk" 7 "secret") := by
  intro claimed
  exact ServerAddressBook.readsBack_unknown (by decide) (claimed (by decide))

end EasyViewer
