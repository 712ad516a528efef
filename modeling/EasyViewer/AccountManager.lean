import EasyViewer.Define
import Mathlib.Data.List.Basic

/-!
`AccountManager.cpp` over the table `user`: its rows in insertion order, with SQLite
carrying out each statement or failing as a whole. Every text is bound as a C string.
`md5` is the hexadecimal MD5 of Qt.
-/

namespace EasyViewer

structure AccountManager where
  rows : List Account := []
  adminPassword : String := ""

namespace AccountManager

/-- SQLite's `LIKE`, which tells no upper from lower case letters. -/
def like : List Char → List Char → Bool
  | [], text => text.isEmpty
  | '%' :: pattern, text => text.tails.any fun rest => like pattern rest
  | '_' :: pattern, text =>
      match text with
      | [] => false
      | _ :: rest => like pattern rest
  | char :: pattern, text =>
      match text with
      | [] => false
      | first :: rest => char.toLower == first.toLower && like pattern rest

def listAccounts (manager : AccountManager) (filter : String) (executed : Bool) :
    Int × List Account :=
  if ¬ executed then (Err.unknow, [])
  else if filter.isEmpty then (Err.noError, manager.rows)
  else
    (Err.noError, manager.rows.filter fun row =>
      like (cStr ("%" ++ filter ++ "%")).toList row.account.toList)

def checkAdminPassword (manager : AccountManager) (password : String) : Bool :=
  password = manager.adminPassword

def maxLen : Nat := 64

/-- The length is that of the whole text, the pattern is matched up to the first NUL. -/
def validText (text : String) : Bool :=
  text.utf8ByteSize ≤ maxLen && !(cStr text).isEmpty &&
    (cStr text).toList.all fun char => char.isAlphanum || char = '.' || char = '@'

/-- The account found has the name that was asked for, not the row's. -/
def getAccount (manager : AccountManager) (account : String) (executed : Bool) :
    Except Int Account :=
  if ¬ executed then .error Err.unknow
  else
    match manager.rows.find? fun row => row.account = cStr account with
    | none => .error Err.accountNotExists
    | some row => .ok { row with account := account }

def getAccountById (manager : AccountManager) (userId : UserId) (executed : Bool) :
    Except Int Account :=
  if ¬ executed then .error Err.unknow
  else
    match manager.rows.find? fun row => row.id = userId with
    | none => .error Err.accountNotExists
    | some row => .ok row

def setAccountDisabled (manager : AccountManager) (account : String) (disabled executed : Bool) :
    Int × AccountManager :=
  if ¬ executed then (Err.unknow, manager)
  else
    (Err.noError, { manager with
      rows := manager.rows.map fun row =>
        if row.account = cStr account then { row with disabled := disabled } else row })

def enableAccount (manager : AccountManager) (account : String) (executed : Bool) :
    Int × AccountManager :=
  manager.setAccountDisabled account false executed

def disableAccount (manager : AccountManager) (account : String) (executed : Bool) :
    Int × AccountManager :=
  manager.setAccountDisabled account true executed

def deleteAccount (manager : AccountManager) (account : String) (executed : Bool) :
    Int × AccountManager :=
  if ¬ executed then (Err.unknow, manager)
  else
    (Err.noError, { manager with
      rows := manager.rows.filter fun row => row.account ≠ cStr account })

section

variable (md5 : String → String)

def encodePassword (account password : String) : String :=
  md5 (cStr (account ++ ":" ++ password))

def checkPassword (account : Account) (password : String) : Bool :=
  account.password = encodePassword md5 account.account password

/-- `id` is what `generateUserID` returned. -/
def addAccount (manager : AccountManager) (account password : String) (id : UserId)
    (executed : Bool) : Int × AccountManager :=
  if ¬ validText account ∨ ¬ validText password then (Err.invalidParams, manager)
  else if id = 0 then (Err.unknow, manager)
  else if ¬ executed then (Err.unknow, manager)
  else
    (Err.noError, { manager with
      rows := manager.rows ++ [{
        id := id, account := cStr account
        password := cStr (encodePassword md5 account password) }] })

def updatePassword (manager : AccountManager) (account password : String) (executed : Bool) :
    Int × AccountManager :=
  if ¬ executed then (Err.unknow, manager)
  else
    (Err.noError, { manager with
      rows := manager.rows.map fun row =>
        if row.account = cStr account then
          { row with password := cStr (encodePassword md5 account password) }
        else row })

end

def Absent (manager : AccountManager) (name : String) : Prop :=
  ∀ row ∈ manager.rows, row.account ≠ name

def Disabled (manager : AccountManager) (name : String) : Prop :=
  ∀ row ∈ manager.rows, row.account = name → row.disabled = true

theorem getAccount_ok {manager : AccountManager} {account : String} {executed : Bool}
    {info : Account} (found : manager.getAccount account executed = .ok info) :
    ∃ row ∈ manager.rows, row.account = cStr account ∧ info = { row with account := account } := by
  simp only [getAccount] at found
  split at found
  · contradiction
  · split at found
    · contradiction
    · rename_i row looked
      cases found
      exact ⟨row, List.mem_of_find?_eq_some looked, by simpa using List.find?_some looked, rfl⟩

theorem Disabled.getAccount {manager : AccountManager} {account : String} {executed : Bool}
    {info : Account} (disabled : manager.Disabled (cStr account))
    (found : manager.getAccount account executed = .ok info) : info.disabled = true := by
  obtain ⟨row, member, named, rfl⟩ := getAccount_ok found
  exact disabled row member named

theorem setAccountDisabled_rows {manager next : AccountManager} {account : String}
    {disabled executed : Bool} {err : Int}
    (ran : manager.setAccountDisabled account disabled executed = (err, next)) :
    next.rows = manager.rows ∧ err = Err.unknow ∨
      err = Err.noError ∧ next.rows = manager.rows.map fun row =>
        if row.account = cStr account then { row with disabled := disabled } else row := by
  simp only [setAccountDisabled] at ran
  split at ran
  · cases ran
    exact Or.inl ⟨rfl, rfl⟩
  · cases ran
    exact Or.inr ⟨rfl, rfl⟩

theorem enabled_disabled_iff {manager next : AccountManager} {account : String} {executed : Bool}
    (ran : manager.enableAccount account executed = (Err.noError, next)) :
    next.Disabled (cStr account) ↔ manager.Absent (cStr account) := by
  rcases setAccountDisabled_rows ran with ⟨_, failed⟩ | ⟨_, rows⟩
  · exact absurd failed (by decide)
  · constructor
    · intro disabled row member named
      have changed : { row with disabled := false } ∈ next.rows := by
        rw [rows]
        exact List.mem_map.mpr ⟨row, member, if_pos named⟩
      exact absurd (disabled _ changed named) (by simp)
    · intro absent row member named
      rw [rows] at member
      obtain ⟨before, listed, rfl⟩ := List.mem_map.mp member
      split at named
      · rename_i same
        exact absurd same (absent before listed)
      · exact absurd named (absent before listed)

theorem addAccount_cases {md5 : String → String} {manager next : AccountManager}
    {account password : String} {id : UserId} {executed : Bool} {err : Int}
    (ran : manager.addAccount md5 account password id executed = (err, next)) :
    next = manager ∧ err ≠ Err.noError ∨
      err = Err.noError ∧ next.rows = manager.rows ++ [{
        id := id, account := cStr account
        password := cStr (encodePassword md5 account password) }] := by
  simp only [addAccount] at ran
  split at ran
  · cases ran
    exact Or.inl ⟨rfl, by decide⟩
  · split at ran
    · cases ran
      exact Or.inl ⟨rfl, by decide⟩
    · split at ran
      · cases ran
        exact Or.inl ⟨rfl, by decide⟩
      · cases ran
        exact Or.inr ⟨rfl, rfl⟩

end AccountManager

end EasyViewer
