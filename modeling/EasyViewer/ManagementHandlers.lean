import EasyViewer.Server

/-!
The handlers of the management server: account table, blacklist and kick-outs.
-/

namespace EasyViewer

inductive ManagementRequest where
  | listAccount (seq : Int) (filter : String)
  | addAccount (seq : Int) (account password : String)
  | enableAccount (seq : Int) (account : String)
  | disableAccount (seq : Int) (account : String)
  | deleteAccount (seq : Int) (account : String)
  | changeAccountPassword (seq : Int) (account password : String)
  | listBlockedIPAddresses (seq : Int)
  | removeBlockedIPAddress (seq : Int) (ipAddress : String)
  | addBlockedIPAddress (seq : Int) (ipAddress : String) (duration : Nat)
  | listBlockedAccounts (seq : Int)
  | removeBlockedAccount (seq : Int) (userId : UserId)
  | addBlockedAccount (seq : Int) (userId : UserId) (duration : Nat)
  deriving DecidableEq, Repr

def ManagementRequest.tag : ManagementRequest → UInt32
  | .listAccount _ _ => Tag.requestListAccount
  | .addAccount _ _ _ => Tag.requestAddAccount
  | .enableAccount _ _ => Tag.requestEnableAccount
  | .disableAccount _ _ => Tag.requestDisableAccount
  | .deleteAccount _ _ => Tag.requestDeleteAccount
  | .changeAccountPassword _ _ _ => Tag.requestChangeAccountPassword
  | .listBlockedIPAddresses _ => Tag.requestListBlockedIPAddresses
  | .removeBlockedIPAddress _ _ => Tag.requestRemoveBlockedIPAddress
  | .addBlockedIPAddress _ _ _ => Tag.requestAddBlockedIPAddress
  | .listBlockedAccounts _ => Tag.requestListBlockedAccounts
  | .removeBlockedAccount _ _ => Tag.requestRemoveBlockedAccount
  | .addBlockedAccount _ _ _ => Tag.requestAddBlockedAccount

def respondManagement (state : ServerState) (con : ConnectionId) (tag : UInt32)
    (response : ManagementResponse) : ServerState :=
  state.send con { tag := tag, body := .management response }

def answerAccount (state : ServerState) (con : ConnectionId) (tag : UInt32) (seq err : Int) :
    ServerState :=
  respondManagement state con tag {
    seq := seq, errCode := err, errString := if err ≠ Err.noError then formatError err else "" }

def requestListAccount (state : ServerState) (con : ConnectionId) (seq : Int) (filter : String)
    (ambient : Ambient) : ServerState :=
  let (err, accounts) := state.accountManager.listAccounts filter ambient.executed
  if err ≠ Err.noError then
    respondManagement state con Tag.responseListAccount {
      seq := seq, errCode := err, errString := formatError err }
  else
    respondManagement state con Tag.responseListAccount {
      seq := seq, errCode := err, accounts := accounts }

def requestEnableAccount (state : ServerState) (con : ConnectionId) (seq : Int) (account : String)
    (ambient : Ambient) : ServerState :=
  let (err, manager) := state.accountManager.enableAccount account ambient.executed
  answerAccount { state with accountManager := manager } con Tag.responseEnableAccount seq err

/-- The account is enabled, and the kick-out runs on an error and takes an address. -/
def requestDisableAccount (state : ServerState) (con : ConnectionId) (seq : Int) (account : String)
    (ambient : Ambient) : ServerState :=
  let (err, manager) := state.accountManager.enableAccount account ambient.executed
  let changed := { state with accountManager := manager }
  answerAccount (if err ≠ Err.noError then changed.kickoutIP account else changed) con
    Tag.responseDisableAccount seq err

/-- The kick-out runs on an error and takes an address. -/
def requestDeleteAccount (state : ServerState) (con : ConnectionId) (seq : Int) (account : String)
    (ambient : Ambient) : ServerState :=
  let (err, manager) := state.accountManager.deleteAccount account ambient.executed
  let changed := { state with accountManager := manager }
  answerAccount (if err ≠ Err.noError then changed.kickoutIP account else changed) con
    Tag.responseDeleteAccount seq err

def requestListBlockedIPAddresses (state : ServerState) (con : ConnectionId) (seq : Int) :
    ServerState :=
  match state.blackList.listIPAddresses with
  | none => state.crash .badVariantAccess
  | some addresses =>
      respondManagement state con Tag.responseListBlockedIPAddresses {
        seq := seq, errCode := Err.noError, ipAddresses := addresses }

def requestRemoveBlockedIPAddress (state : ServerState) (con : ConnectionId) (seq : Int)
    (ipAddress : String) : ServerState :=
  respondManagement
    { state with blackList := state.blackList.removeIPAddress ipAddress } con
    Tag.responseRemoveBlockedIPAddress { seq := seq, errCode := Err.noError }

def requestAddBlockedIPAddress (state : ServerState) (con : ConnectionId) (seq : Int)
    (ipAddress : String) (duration : Nat) (ambient : Ambient) : ServerState :=
  let blocked := { state with
    blackList := state.blackList.addIPAddress ipAddress duration ambient.seconds }
  respondManagement (blocked.kickoutIP ipAddress) con Tag.responseAddBlockedIPAddress {
    seq := seq, errCode := Err.noError }

def requestListBlockedAccounts (state : ServerState) (con : ConnectionId) (seq : Int) :
    ServerState :=
  match state.blackList.listAccounts with
  | none => state.crash .badVariantAccess
  | some accounts =>
      respondManagement state con Tag.responseListBlockedAccounts {
        seq := seq, errCode := Err.noError, blockedAccounts := accounts }

def requestRemoveBlockedAccount (state : ServerState) (con : ConnectionId) (seq : Int)
    (userId : UserId) : ServerState :=
  respondManagement { state with blackList := state.blackList.removeAccount userId } con
    Tag.responseRemoveBlockedAccount { seq := seq, errCode := Err.noError }

def requestAddBlockedAccount (state : ServerState) (con : ConnectionId) (seq : Int)
    (userId : UserId) (duration : Nat) (ambient : Ambient) : ServerState :=
  match state.accountManager.getAccountById userId ambient.executed with
  | .error err =>
      respondManagement state con Tag.responseAddBlockedAccount {
        seq := seq, errCode := err, errString := formatError err }
  | .ok account =>
      let blocked := { state with
        blackList := state.blackList.addAccount account duration ambient.seconds }
      respondManagement (blocked.kickoutUser userId) con Tag.responseAddBlockedAccount {
        seq := seq, errCode := Err.noError, errString := formatError Err.noError }

section

variable (md5 : String → String)

/-- The answer names the new user id also where none was stored. -/
def requestAddAccount (state : ServerState) (con : ConnectionId) (seq : Int)
    (account password : String) (ambient : Ambient) : ServerState :=
  let (err, manager) :=
    state.accountManager.addAccount md5 account password ambient.userId ambient.executed
  respondManagement { state with accountManager := manager } con Tag.responseAddAccount {
    seq := seq
    errCode := err
    errString := if err ≠ Err.noError then formatError err else ""
    userId := ambient.userId }

def requestChangeAccountPassword (state : ServerState) (con : ConnectionId) (seq : Int)
    (account password : String) (ambient : Ambient) : ServerState :=
  let (err, manager) :=
    state.accountManager.updatePassword md5 account password ambient.executed
  answerAccount { state with accountManager := manager } con
    Tag.responseChangeAccountPassword seq err

def manage (state : ServerState) (con : ConnectionId) (request : ManagementRequest)
    (ambient : Ambient) : ServerState :=
  match request with
  | .listAccount seq filter => requestListAccount state con seq filter ambient
  | .addAccount seq account password =>
      requestAddAccount md5 state con seq account password ambient
  | .enableAccount seq account => requestEnableAccount state con seq account ambient
  | .disableAccount seq account => requestDisableAccount state con seq account ambient
  | .deleteAccount seq account => requestDeleteAccount state con seq account ambient
  | .changeAccountPassword seq account password =>
      requestChangeAccountPassword md5 state con seq account password ambient
  | .listBlockedIPAddresses seq => requestListBlockedIPAddresses state con seq
  | .removeBlockedIPAddress seq ipAddress => requestRemoveBlockedIPAddress state con seq ipAddress
  | .addBlockedIPAddress seq ipAddress duration =>
      requestAddBlockedIPAddress state con seq ipAddress duration ambient
  | .listBlockedAccounts seq => requestListBlockedAccounts state con seq
  | .removeBlockedAccount seq userId => requestRemoveBlockedAccount state con seq userId
  | .addBlockedAccount seq userId duration =>
      requestAddBlockedAccount state con seq userId duration ambient

/-- What the management handlers have in common: they check the role and not the user. -/
def handleManagement (state : ServerState) (con : ConnectionId) (connection : Connection)
    (request : ManagementRequest) (ambient : Ambient) : ServerState :=
  if connection.role ≠ Role.flagManager then state.disconnect con
  else state.parse con connection ambient (manage md5 state con request ambient)

end

end EasyViewer
