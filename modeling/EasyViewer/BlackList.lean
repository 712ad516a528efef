import EasyViewer.Define

/-!
`BlackList.cpp`: failure counts per key in windows of five minutes and of an hour, and
the blocks they lead to. A key is an address or a decimal user id; times are seconds,
in a time zone whose offset is a whole number of hours.
-/

namespace EasyViewer

namespace BlackList

structure Count where
  count : Nat
  forTime : Int
  deriving DecidableEq, Repr

inductive StatusType where
  | ipAddress
  | account
  deriving DecidableEq, Repr

structure Status where
  type : StatusType
  target : String ⊕ Account
  m : Count
  h : Count
  blocked : Bool := false
  blockUntil : Int := 0

end BlackList

structure BlackList where
  statuses : List (String × BlackList.Status) := []

namespace BlackList

def toKey2 (id : UserId) : String := toString id

def fillForTime (t : Int) : Int × Int := (t / 300 * 300, t / 3600 * 3600)

def find (blackList : BlackList) (key : String) : Option Status :=
  blackList.statuses.lookup key

def place (key : String) (status : Status) : List (String × Status) → List (String × Status)
  | [] => [(key, status)]
  | (other, before) :: rest =>
      if key = other then (key, status) :: rest
      else if key < other then (key, status) :: (other, before) :: rest
      else (other, before) :: place key status rest

def put (blackList : BlackList) (key : String) (status : Status) : BlackList :=
  { statuses := place key status blackList.statuses }

def firstStatus (type : StatusType) (target : String ⊕ Account) (t : Int) : Status :=
  { type := type, target := target
    m := { count := 1, forTime := (fillForTime t).1 }
    h := { count := 1, forTime := (fillForTime t).2 } }

def add (blackList : BlackList) (key : String) (status : Status) (blockUntil : Int) : BlackList :=
  blackList.put key
    { (blackList.find key).getD status with blocked := true, blockUntil := blockUntil }

def addIPAddress (blackList : BlackList) (ip : String) (duration : Nat) (t : Int) : BlackList :=
  blackList.add ip (firstStatus .ipAddress (.inl ip) t) (t + duration)

/-- The record made for an account is typed as an address. -/
def addAccount (blackList : BlackList) (account : Account) (duration : Nat) (t : Int) : BlackList :=
  blackList.add (toKey2 account.id) (firstStatus .ipAddress (.inr account) t) (t + duration)

def increaseCount (count : Count) (window : Int) : Count × Bool :=
  if count.forTime = window then
    ({ count with count := count.count + 1 }, 5 ≤ count.count + 1)
  else ({ count := 1, forTime := window }, false)

def increase (blackList : BlackList) (key : String) (status : Status) (t : Int) : BlackList :=
  match blackList.find key with
  | none => blackList.put key status
  | some before =>
      let (m, minuteFull) := increaseCount before.m (fillForTime t).1
      let (h, hourFull) := increaseCount before.h (fillForTime t).2
      let counted := { before with m := m, h := h }
      let blocked :=
        if minuteFull then { counted with blocked := true, blockUntil := t + 300 } else counted
      blackList.put key
        (if hourFull then { blocked with blocked := true, blockUntil := t + 3600 } else blocked)

def increaseIPAddress (blackList : BlackList) (ip : String) (t : Int) : BlackList :=
  blackList.increase ip (firstStatus .ipAddress (.inl ip) t) t

def increaseAccount (blackList : BlackList) (account : Account) (t : Int) : BlackList :=
  blackList.increase (toKey2 account.id) (firstStatus .account (.inr account) t) t

def check (blackList : BlackList) (key : String) (t : Int) : Bool :=
  match blackList.find key with
  | none => true
  | some status => !(status.blocked && t ≤ status.blockUntil)

def checkIPAddress (blackList : BlackList) (ip : String) (t : Int) : Bool := blackList.check ip t

def checkAccount (blackList : BlackList) (id : UserId) (t : Int) : Bool :=
  blackList.check (toKey2 id) t

def remove (blackList : BlackList) (key : String) : BlackList :=
  { statuses := blackList.statuses.filter fun entry => entry.1 ≠ key }

def removeIPAddress (blackList : BlackList) (ip : String) : BlackList := blackList.remove ip

def removeAccount (blackList : BlackList) (id : UserId) : BlackList := blackList.remove (toKey2 id)

/-- `std::get` throws on a record typed as an address that holds an account. -/
def listIPAddresses (blackList : BlackList) : Option (List (String × Int)) :=
  (blackList.statuses.filter fun entry =>
    entry.2.type = .ipAddress && entry.2.blocked).mapM fun entry =>
      match entry.2.target with
      | .inl ip => some (ip, entry.2.blockUntil)
      | .inr _ => none

def listAccounts (blackList : BlackList) : Option (List (UserId × String × Int)) :=
  (blackList.statuses.filter fun entry =>
    entry.2.type = .account && entry.2.blocked).mapM fun entry =>
      match entry.2.target with
      | .inl _ => none
      | .inr account => some (account.id, account.account, entry.2.blockUntil)

end BlackList

end EasyViewer
