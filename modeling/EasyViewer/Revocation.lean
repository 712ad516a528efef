import EasyViewer.ServerOutputs

/-!
Disabled and deleted accounts. Both handlers answer with success and kick nobody out,
and the one for disabling enables; they keep what they answer just where there was
nothing to revoke. A list of the revoked names is kept beside the state of the servers.
-/

namespace EasyViewer

def answersSuccess (next : ServerState) (tag : UInt32) : Bool :=
  next.outputs.any fun output =>
    output.packet.tag = tag &&
      match output.packet.body with
      | .management response => response.errCode = Err.noError
      | _ => false

/-- `revoked` holds names as the table has them. -/
structure Watched where
  server : ServerState
  revoked : String → Bool := fun _ => false

/-- A name is revoked by a disabling answered with success, until an enabling is. -/
def watch (event : Event) (next : ServerState) (revoked : String → Bool) : String → Bool :=
  match event with
  | .message _ (.management (.disableAccount _ account)) _ =>
      if answersSuccess next Tag.responseDisableAccount then
        fun name => name = cStr account || revoked name
      else revoked
  | .message _ (.management (.enableAccount _ account)) _ =>
      if answersSuccess next Tag.responseEnableAccount then
        fun name => name ≠ cStr account && revoked name
      else revoked
  | _ => revoked

def watchedStep (md5 : String → String) (watched : Watched) (event : Event) : Option Watched :=
  (serverStep md5 watched.server event).map fun next =>
    { server := next, revoked := watch event next watched.revoked }

def AccountsDisabled (watched : Watched) : Prop :=
  ∀ name, watched.revoked name = true → watched.server.accountManager.Disabled name

def LoginsRefused (md5 : String → String) (watched : Watched) (event : Event) : Prop :=
  ∀ next con request ambient, serverStep md5 watched.server event = some next →
    event = .message con (.login request) ambient →
    watched.revoked (cStr request.account) = true →
    request.role ≠ Role.manager →
    next.connections = watched.server.connections ∧
      ∀ output ∈ next.outputs, ∀ errString userId,
        output.packet.body ≠ .login Err.noError errString userId

/-- Every connection of the application server that is bound to the account, under whatever
name it logged in, is among those told to disconnect. -/
def BoundTold (state : ServerState) (account : String) (told : ConnectionId → Bool) : Prop :=
  ∀ con connection user, state.connected con = true → state.connections con = some connection →
    connection.server = .application → connection.user = some user →
    cStr user.account = cStr account → told con = true

def ManagementRequest.revokes : ManagementRequest → Option (UInt32 × String)
  | .disableAccount _ account => some (Tag.responseDisableAccount, account)
  | .deleteAccount _ account => some (Tag.responseDeleteAccount, account)
  | _ => none

/-- A success answer to a disabling or deleting comes with everybody told. -/
def RevocationTold (md5 : String → String) (watched : Watched) (event : Event) : Prop :=
  ∀ next con request ambient tag account, serverStep md5 watched.server event = some next →
    event = .message con (.management request) ambient →
    request.revokes = some (tag, account) → answersSuccess next tag = true →
    BoundTold watched.server account next.disconnecting

/-- The request that the event has carried out: the manager sent it, it parses, and SQLite does
what it asks. -/
def carriedOut (state : ServerState) (event : Event) : Option (ManagementRequest × UserId) :=
  match event with
  | .message con (.management request) ambient =>
      match state.connections con with
      | none => none
      | some connection =>
          if connection.role = Role.flagManager ∧ ambient.readable ∧ ambient.executed then
            some (request, ambient.userId)
          else none
  | _ => none

/-- Who is disabled is not in the table, and no account is added under a revoked name. -/
def ManagementRequest.SparesTable (watched : Watched) (userId : UserId) :
    ManagementRequest → Prop
  | .disableAccount _ account => watched.server.accountManager.Absent (cStr account)
  | .addAccount _ account password =>
      AccountManager.validText account = true → AccountManager.validText password = true →
        userId ≠ 0 → watched.revoked (cStr account) = false
  | _ => True

def DisablesAbsent (watched : Watched) (event : Event) : Prop :=
  ∀ request userId, carriedOut watched.server event = some (request, userId) →
    request.SparesTable watched userId

/-- Who is disabled or deleted has nobody connected but those told before. -/
def RevokesUnbound (watched : Watched) (event : Event) : Prop :=
  ∀ request userId tag account, carriedOut watched.server event = some (request, userId) →
    request.revokes = some (tag, account) →
    BoundTold watched.server account watched.server.disconnecting

def NothingToRevoke (watched : Watched) (event : Event) : Prop :=
  DisablesAbsent watched event ∧ RevokesUnbound watched event

section

variable {md5 : String → String}

namespace AccountManager

theorem disabled_other {manager next : AccountManager} {account other : String}
    {flag executed : Bool} {err : Int} (apart : other ≠ cStr account)
    (ran : manager.setAccountDisabled account flag executed = (err, next)) :
    next.Disabled other ↔ manager.Disabled other := by
  rcases setAccountDisabled_rows ran with ⟨rows, _⟩ | ⟨_, rows⟩
  · simp only [Disabled]
    rw [rows]
  · simp only [Disabled]
    rw [rows]
    constructor
    · intro disabled row member named
      have kept :
          (if row.account = cStr account then { row with disabled := flag } else row) = row :=
        if_neg fun same => apart (named.symm.trans same)
      exact disabled row (List.mem_map.mpr ⟨row, member, kept⟩) named
    · intro disabled row member named
      obtain ⟨before, listed, rfl⟩ := List.mem_map.mp member
      split at named
      · rename_i same
        exact absurd (named.symm.trans same) apart
      · rename_i different
        rw [if_neg different]
        exact disabled before listed named

theorem disabled_deleteAccount {manager next : AccountManager} {account other : String}
    {executed : Bool} {err : Int} (disabled : manager.Disabled account)
    (ran : manager.deleteAccount other executed = (err, next)) : next.Disabled account := by
  simp only [deleteAccount] at ran
  split at ran
  · cases ran
    exact disabled
  · cases ran
    intro row member
    exact disabled row (List.mem_filter.mp member).1

theorem disabled_updatePassword {manager next : AccountManager} {account other password : String}
    {executed : Bool} {err : Int} (disabled : manager.Disabled account)
    (ran : manager.updatePassword md5 other password executed = (err, next)) :
    next.Disabled account := by
  simp only [updatePassword] at ran
  split at ran
  · cases ran
    exact disabled
  · cases ran
    intro row member named
    obtain ⟨before, listed, rfl⟩ := List.mem_map.mp member
    split at named
    · rename_i same
      rw [if_pos same]
      exact disabled before listed named
    · rename_i different
      rw [if_neg different]
      exact disabled before listed named

theorem disabled_addAccount {manager next : AccountManager} {account other password : String}
    {id : UserId} {executed : Bool} {err : Int} (disabled : manager.Disabled account)
    (ran : manager.addAccount md5 other password id executed = (err, next)) :
    next.Disabled account ↔ ¬ (err = Err.noError ∧ cStr other = account) := by
  rcases addAccount_cases ran with ⟨rfl, failed⟩ | ⟨passed, rows⟩
  · exact ⟨fun _ both => failed both.1, fun _ => disabled⟩
  · constructor
    · rintro still ⟨_, rfl⟩
      have listed : ({
          id := id, account := cStr other
          password := cStr (encodePassword md5 other password) } : Account) ∈ next.rows := by
        rw [rows]
        exact List.mem_append_right _ (List.mem_singleton.mpr rfl)
      exact absurd (still _ listed rfl) (by simp)
    · intro apart row member named
      rw [rows] at member
      rcases List.mem_append.mp member with old | new
      · exact disabled row old named
      · rw [List.mem_singleton] at new
        rw [new] at named
        exact absurd ⟨passed, named⟩ apart

end AccountManager

def changedTable (md5 : String → String) (manager : AccountManager) (request : ManagementRequest)
    (ambient : Ambient) : AccountManager :=
  match request with
  | .addAccount _ account password =>
      (manager.addAccount md5 account password ambient.userId ambient.executed).2
  | .enableAccount _ account => (manager.enableAccount account ambient.executed).2
  | .disableAccount _ account => (manager.enableAccount account ambient.executed).2
  | .deleteAccount _ account => (manager.deleteAccount account ambient.executed).2
  | .changeAccountPassword _ account password =>
      (manager.updatePassword md5 account password ambient.executed).2
  | _ => manager

theorem manage_table (state : ServerState) (con : ConnectionId) (request : ManagementRequest)
    (ambient : Ambient) :
    (manage md5 state con request ambient).accountManager =
      changedTable md5 state.accountManager request ambient := by
  cases request with
  | listAccount seq filter =>
      simp only [manage, requestListAccount]
      split <;> rfl
  | disableAccount seq account =>
      simp only [manage, requestDisableAccount]
      split <;> rfl
  | deleteAccount seq account =>
      simp only [manage, requestDeleteAccount]
      split <;> rfl
  | listBlockedIPAddresses seq =>
      simp only [manage, requestListBlockedIPAddresses]
      split <;> rfl
  | listBlockedAccounts seq =>
      simp only [manage, requestListBlockedAccounts]
      split <;> rfl
  | addBlockedAccount seq userId duration =>
      simp only [manage, requestAddBlockedAccount]
      split <;> rfl
  | _ => rfl

theorem handleManagement_cases (state : ServerState) (con : ConnectionId)
    (connection : Connection) (request : ManagementRequest) (ambient : Ambient) :
    (connection.role = Role.flagManager ∧ ambient.readable = true) ∧
        handleManagement md5 state con connection request ambient =
          manage md5 state con request ambient ∨
      ¬ (connection.role = Role.flagManager ∧ ambient.readable = true) ∧
        (handleManagement md5 state con connection request ambient).accountManager =
          state.accountManager ∧
        (handleManagement md5 state con connection request ambient).outputs = state.outputs := by
  simp only [handleManagement]
  split
  · rename_i role
    exact Or.inr ⟨fun both => role both.1, rfl, rfl⟩
  · rename_i role
    push Not at role
    cases readable : ambient.readable with
    | true => exact Or.inl ⟨⟨role, rfl⟩, ServerState.parse_readable readable⟩
    | false =>
        refine Or.inr ⟨fun both => absurd both.2 (by simp), ?_⟩
        simp only [ServerState.parse]
        rw [if_neg (by simp [readable])]
        exact ⟨rfl, rfl⟩

section

variable {state next : ServerState} {con : ConnectionId} {request : ManagementRequest}
  {ambient : Ambient} {event : Event}

theorem answerAccount_success {after : ServerState} (outputs : after.outputs = []) (tag : UInt32)
    (seq err : Int) :
    answersSuccess (answerAccount after con tag seq err) tag = decide (err = Err.noError) := by
  simp only [answersSuccess, answerAccount, respondManagement, ServerState.send, ServerState.put]
  rw [outputs]
  simp [Output.packet]

theorem serverStep_management
    (stepped : serverStep md5 state (.message con (.management request) ambient) = some next) :
    (∃ connection, state.connections con = some connection ∧
        connection.role = Role.flagManager) ∧ ambient.readable = true ∧
        next = manage md5 { state with outputs := [] } con request ambient ∨
      (∀ connection, state.connections con = some connection →
        ¬ (connection.role = Role.flagManager ∧ ambient.readable = true)) ∧
        next.accountManager = state.accountManager ∧ next.outputs = [] := by
  obtain ⟨_, happened⟩ := serverStep_some.mp stepped
  obtain ⟨connection, known, _, _, rfl⟩ := eventStep_message happened
  rcases @handleManagement_cases md5 { state with outputs := [] } con connection request ambient with
    ⟨⟨role, readable⟩, result⟩ | ⟨stopped, table, outputs⟩
  · exact Or.inl ⟨⟨connection, known, role⟩, readable, result⟩
  · refine Or.inr ⟨fun other found => ?_, table, outputs⟩
    have same : connection = other := Option.some.inj (known.symm.trans found)
    exact same ▸ stopped

theorem carriedOut_iff (con : ConnectionId) (request : ManagementRequest) (ambient : Ambient) :
    carriedOut state (.message con (.management request) ambient) =
        some (request, ambient.userId) ↔
      (∃ connection, state.connections con = some connection ∧
        connection.role = Role.flagManager) ∧ ambient.readable = true ∧
        ambient.executed = true := by
  simp only [carriedOut]
  constructor
  · intro carried
    split at carried
    · contradiction
    · rename_i connection known
      split at carried
      · rename_i both
        exact ⟨⟨connection, known, both.1⟩, both.2⟩
      · contradiction
  · rintro ⟨⟨connection, known, role⟩, rest⟩
    rw [known]
    exact if_pos ⟨role, rest⟩

/-- A revoking request is answered with success just when SQLite carries it out, and then it
tells nobody to disconnect. -/
theorem manage_revokes {before : ServerState} (outputs : before.outputs = []) {tag : UInt32}
    {account : String} (revokes : request.revokes = some (tag, account)) :
    answersSuccess (manage md5 before con request ambient) tag = ambient.executed ∧
      (ambient.executed = true →
        (manage md5 before con request ambient).disconnecting = before.disconnecting) := by
  cases request with
  | disableAccount seq name =>
      cases revokes
      simp only [manage, requestDisableAccount, AccountManager.enableAccount,
        AccountManager.setAccountDisabled]
      cases ambient.executed with
      | true => exact ⟨answerAccount_success outputs _ _ _, fun _ => rfl⟩
      | false => exact ⟨answerAccount_success outputs _ _ _, fun failed => by contradiction⟩
  | deleteAccount seq name =>
      cases revokes
      simp only [manage, requestDeleteAccount, AccountManager.deleteAccount]
      cases ambient.executed with
      | true => exact ⟨answerAccount_success outputs _ _ _, fun _ => rfl⟩
      | false => exact ⟨answerAccount_success outputs _ _ _, fun failed => by contradiction⟩
  | _ => contradiction

theorem manage_enables {before : ServerState} (outputs : before.outputs = []) (seq : Int)
    (account : String) :
    answersSuccess (manage md5 before con (.enableAccount seq account) ambient)
      Tag.responseEnableAccount = ambient.executed := by
  simp only [manage, requestEnableAccount, AccountManager.enableAccount,
    AccountManager.setAccountDisabled]
  cases ambient.executed with
  | true => exact answerAccount_success outputs _ _ _
  | false => exact answerAccount_success outputs _ _ _

theorem answersSuccess_silent {tag : UInt32} (outputs : next.outputs = []) :
    answersSuccess next tag = false := by
  simp only [answersSuccess]
  rw [outputs]
  rfl

theorem success_carriedOut
    (stepped : serverStep md5 state (.message con (.management request) ambient) = some next)
    {tag : UInt32} {account : String} (revokes : request.revokes = some (tag, account)) :
    (answersSuccess next tag = true ↔
      carriedOut state (.message con (.management request) ambient) =
        some (request, ambient.userId)) ∧
      (answersSuccess next tag = true → next.disconnecting = state.disconnecting) := by
  rw [carriedOut_iff]
  rcases serverStep_management stepped with ⟨manager, readable, rfl⟩ | ⟨stopped, _, outputs⟩
  · obtain ⟨success, told⟩ := @manage_revokes md5 con request ambient
      { state with outputs := [] } rfl tag account revokes
    rw [success]
    exact ⟨⟨fun executed => ⟨manager, readable, executed⟩, fun carried => carried.2.2⟩, told⟩
  · rw [answersSuccess_silent outputs]
    refine ⟨⟨fun impossible => by contradiction, ?_⟩, fun impossible => by contradiction⟩
    rintro ⟨⟨connection, known, role⟩, readable, _⟩
    exact absurd ⟨role, readable⟩ (stopped connection known)

theorem enable_carriedOut {seq : Int} {account : String}
    (stepped : serverStep md5 state
      (.message con (.management (.enableAccount seq account)) ambient) = some next) :
    answersSuccess next Tag.responseEnableAccount = true ↔
      carriedOut state (.message con (.management (.enableAccount seq account)) ambient) =
        some (.enableAccount seq account, ambient.userId) := by
  rw [carriedOut_iff]
  rcases serverStep_management stepped with ⟨manager, readable, rfl⟩ | ⟨stopped, _, outputs⟩
  · have success := @manage_enables md5 con ambient { state with outputs := [] } rfl seq account
    rw [success]
    exact ⟨fun executed => ⟨manager, readable, executed⟩, fun carried => carried.2.2⟩
  · rw [answersSuccess_silent outputs]
    refine ⟨fun impossible => by contradiction, ?_⟩
    rintro ⟨⟨connection, known, role⟩, readable, _⟩
    exact absurd ⟨role, readable⟩ (stopped connection known)

theorem carriedOut_some {userId : UserId}
    (carried : carriedOut state event = some (request, userId)) :
    ∃ con ambient, event = .message con (.management request) ambient ∧
      userId = ambient.userId := by
  simp only [carriedOut] at carried
  split at carried
  · rename_i con asked ambient
    split at carried
    · contradiction
    · split at carried
      · cases carried
        exact ⟨con, ambient, rfl, rfl⟩
      · contradiction
  · contradiction

theorem revocationTold_iff {watched : Watched}
    (stepped : serverStep md5 watched.server event = some next) :
    RevocationTold md5 watched event ↔ RevokesUnbound watched event := by
  constructor
  · intro told request userId tag account carried revokes
    obtain ⟨con, ambient, rfl, rfl⟩ := carriedOut_some carried
    obtain ⟨success, silent⟩ := success_carriedOut stepped revokes
    have answered := success.mpr carried
    have bound := told next con request ambient tag account stepped rfl revokes answered
    rw [silent answered] at bound
    exact bound
  · rintro unbound other con request ambient tag account stepsTo rfl revokes answered
    have same : next = other := Option.some.inj (stepped.symm.trans stepsTo)
    subst same
    obtain ⟨success, silent⟩ := success_carriedOut stepped revokes
    rw [silent answered]
    exact unbound request ambient.userId tag account (success.mp answered) revokes

theorem serverStep_table (stepped : serverStep md5 state event = some next)
    (other : ∀ con request ambient, event ≠ .message con (.management request) ambient) :
    next.accountManager = state.accountManager := by
  obtain ⟨_, happened⟩ := serverStep_some.mp stepped
  cases event with
  | message con message ambient =>
      obtain ⟨connection, _, _, _, rfl⟩ := eventStep_message happened
      rcases handle_effect md5 { state with outputs := [] } con connection message ambient with
        frame | ⟨_, _, _, _, _, _, _, _, table⟩ | ⟨_, _, _, frame⟩ | ⟨_, _, effect⟩ |
        ⟨_, _, frame⟩ | ⟨isManagement, _⟩
      · exact frame.accountManager
      · exact table
      · exact frame.accountManager
      · rw [effect]
        rfl
      · exact frame.accountManager
      · exact absurd (by rw [isManagement]) (other con _ ambient)
  | clean con =>
      obtain ⟨connection, _, _, rfl⟩ := eventStep_clean happened
      exact (cleanUserConnection_frame _ _ _).accountManager
  | connect con server peerIP =>
      simp only [eventStep] at happened
      split at happened
      · contradiction
      · cases happened
        rfl
  | disconnect con =>
      cases happened
      rfl
  | removeConnection con =>
      cases happened
      rfl
  | execute taskId =>
      have ofTask : Event.OfTask (.execute taskId) := trivial
      exact (eventStep_task ofTask happened).1.accountManager
  | timeout taskId now =>
      have ofTask : Event.OfTask (.timeout taskId now) := trivial
      exact (eventStep_task ofTask happened).1.accountManager
  | collect taskId =>
      have ofTask : Event.OfTask (.collect taskId) := trivial
      exact (eventStep_task ofTask happened).1.accountManager

theorem addAccount_noError {manager : AccountManager} {account password : String} {id : UserId} :
    (manager.addAccount md5 account password id true).1 = Err.noError ↔
      AccountManager.validText account = true ∧ AccountManager.validText password = true ∧
        id ≠ 0 := by
  simp only [AccountManager.addAccount]
  split
  · rename_i invalid
    have failed : Err.invalidParams ≠ Err.noError := by decide
    refine ⟨fun passed => absurd passed failed, fun valid => ?_⟩
    rcases invalid with refused | refused
    · exact absurd valid.1 refused
    · exact absurd valid.2.1 refused
  · rename_i valid
    push Not at valid
    split
    · rename_i none
      have failed : Err.unknow ≠ Err.noError := by decide
      exact ⟨fun passed => absurd passed failed, fun both => absurd none both.2.2⟩
    · rename_i given
      exact ⟨fun _ => ⟨valid.1, valid.2, given⟩, fun _ => rfl⟩

theorem changedTable_failed {manager : AccountManager} (failed : ambient.executed = false) :
    changedTable md5 manager request ambient = manager := by
  cases request with
  | addAccount seq account password =>
      simp only [changedTable, failed]
      simp only [AccountManager.addAccount]
      split
      · rfl
      · split <;> rfl
  | enableAccount seq account =>
      simp only [changedTable, failed]
      rfl
  | disableAccount seq account =>
      simp only [changedTable, failed]
      rfl
  | deleteAccount seq account =>
      simp only [changedTable, failed]
      rfl
  | changeAccountPassword seq account password =>
      simp only [changedTable, failed]
      rfl
  | _ => rfl

theorem management_idle {watched : Watched}
    (stepped : serverStep md5 watched.server (.message con (.management request) ambient) =
      some next)
    (idle : carriedOut watched.server (.message con (.management request) ambient) ≠
      some (request, ambient.userId)) :
    next.accountManager = watched.server.accountManager ∧
      watch (.message con (.management request) ambient) next watched.revoked =
        watched.revoked := by
  constructor
  · rcases serverStep_management stepped with ⟨manager, readable, rfl⟩ | ⟨_, table, _⟩
    · rw [manage_table]
      cases executed : ambient.executed with
      | true => exact absurd ((carriedOut_iff _ _ _).mpr ⟨manager, readable, executed⟩) idle
      | false => exact changedTable_failed executed
    · exact table
  · cases request with
    | disableAccount seq account =>
        have failed : ¬ answersSuccess next Tag.responseDisableAccount = true :=
          fun answered => idle ((success_carriedOut stepped rfl).1.mp answered)
        exact if_neg failed
    | enableAccount seq account =>
        have failed : ¬ answersSuccess next Tag.responseEnableAccount = true :=
          fun answered => idle ((enable_carriedOut stepped).mp answered)
        exact if_neg failed
    | _ => rfl

theorem management_table
    (stepped : serverStep md5 state (.message con (.management request) ambient) = some next)
    (carried : carriedOut state (.message con (.management request) ambient) =
      some (request, ambient.userId)) :
    ambient.executed = true ∧
      next.accountManager = changedTable md5 state.accountManager request ambient := by
  obtain ⟨⟨connection, known, role⟩, readable, executed⟩ := (carriedOut_iff _ _ _).mp carried
  refine ⟨executed, ?_⟩
  rcases serverStep_management stepped with ⟨_, _, rfl⟩ | ⟨stopped, _⟩
  · exact manage_table _ con request ambient
  · exact absurd ⟨role, readable⟩ (stopped connection known)

theorem accountsDisabled_carriedOut {watched : Watched} (disabled : AccountsDisabled watched)
    (stepped : serverStep md5 watched.server (.message con (.management request) ambient) =
      some next)
    (carried : carriedOut watched.server (.message con (.management request) ambient) =
      some (request, ambient.userId)) :
    AccountsDisabled {
        server := next
        revoked := watch (.message con (.management request) ambient) next watched.revoked } ↔
      DisablesAbsent watched (.message con (.management request) ambient) := by
  obtain ⟨executed, table⟩ := management_table stepped carried
  have asked : DisablesAbsent watched (.message con (.management request) ambient) ↔
      request.SparesTable watched ambient.userId := by
    constructor
    · exact fun spared => spared request ambient.userId carried
    · intro spared other userId alsoCarried
      rw [carried, Option.some.injEq, Prod.mk.injEq] at alsoCarried
      obtain ⟨rfl, rfl⟩ := alsoCarried
      exact spared
  rw [asked]
  cases request with
  | disableAccount seq account =>
      have listed : watch (.message con (.management (.disableAccount seq account)) ambient) next
          watched.revoked = fun name => name = cStr account || watched.revoked name :=
        if_pos ((success_carriedOut stepped rfl).1.mpr carried)
      rw [listed]
      simp only [changedTable, executed] at table
      have ran : watched.server.accountManager.enableAccount account true =
          (Err.noError, next.accountManager) := Prod.ext rfl table.symm
      rw [ManagementRequest.SparesTable, ← AccountManager.enabled_disabled_iff ran]
      constructor
      · exact fun all => all (cStr account) (by simp)
      · intro isDisabled name revoked
        by_cases same : name = cStr account
        · exact same ▸ isDisabled
        · have before : watched.revoked name = true := by simpa [same] using revoked
          exact (AccountManager.disabled_other same ran).mpr (disabled name before)
  | enableAccount seq account =>
      have listed : watch (.message con (.management (.enableAccount seq account)) ambient) next
          watched.revoked = fun name => name ≠ cStr account && watched.revoked name :=
        if_pos ((enable_carriedOut stepped).mpr carried)
      rw [listed]
      simp only [changedTable, executed] at table
      have ran : watched.server.accountManager.enableAccount account true =
          (Err.noError, next.accountManager) := Prod.ext rfl table.symm
      refine ⟨fun _ => trivial, fun _ name revoked => ?_⟩
      simp only [Bool.and_eq_true, decide_eq_true_eq] at revoked
      exact (AccountManager.disabled_other revoked.1 ran).mpr (disabled name revoked.2)
  | addAccount seq account password =>
      simp only [changedTable, executed] at table
      have ran : watched.server.accountManager.addAccount md5 account password ambient.userId true =
          ((watched.server.accountManager.addAccount md5 account password ambient.userId true).1,
            next.accountManager) := Prod.ext rfl table.symm
      constructor
      · intro all validAccount validPassword given
        rw [Bool.eq_false_iff]
        intro revoked
        have still := (AccountManager.disabled_addAccount (disabled _ revoked) ran).mp
          (all _ revoked)
        exact still ⟨addAccount_noError.mpr ⟨validAccount, validPassword, given⟩, rfl⟩
      · intro apart name revoked
        refine (AccountManager.disabled_addAccount (disabled name revoked) ran).mpr ?_
        rintro ⟨passed, rfl⟩
        obtain ⟨validAccount, validPassword, given⟩ := addAccount_noError.mp passed
        have spared := apart validAccount validPassword given
        have contrary : watched.revoked (cStr account) = true := revoked
        rw [spared] at contrary
        contradiction
  | deleteAccount seq account =>
      simp only [changedTable, executed] at table
      refine ⟨fun _ => trivial, fun _ name revoked => ?_⟩
      exact AccountManager.disabled_deleteAccount (disabled name revoked)
        (Prod.ext rfl table.symm :
          watched.server.accountManager.deleteAccount account true = (_, next.accountManager))
  | changeAccountPassword seq account password =>
      simp only [changedTable, executed] at table
      refine ⟨fun _ => trivial, fun _ name revoked => ?_⟩
      exact AccountManager.disabled_updatePassword (disabled name revoked)
        (Prod.ext rfl table.symm :
          watched.server.accountManager.updatePassword md5 account password true =
            (_, next.accountManager))
  | _ =>
      refine ⟨fun _ => trivial, fun _ name revoked => ?_⟩
      rw [table]
      exact disabled name revoked

theorem watch_other {revoked : String → Bool}
    (other : ∀ con request ambient, event ≠ .message con (.management request) ambient) :
    watch event next revoked = revoked := by
  simp only [watch]
  split
  · exact absurd rfl (other _ _ _)
  · exact absurd rfl (other _ _ _)
  · rfl

theorem accountsDisabled_step {watched : Watched} (disabled : AccountsDisabled watched)
    (stepped : serverStep md5 watched.server event = some next) :
    AccountsDisabled { server := next, revoked := watch event next watched.revoked } ↔
      DisablesAbsent watched event := by
  have same : next.accountManager = watched.server.accountManager →
      watch event next watched.revoked = watched.revoked →
      AccountsDisabled { server := next, revoked := watch event next watched.revoked } := by
    intro table listed name revoked
    simp only [listed] at revoked
    rw [table]
    exact disabled name revoked
  by_cases isManagement : ∃ con request ambient,
      event = .message con (.management request) ambient
  · obtain ⟨con, request, ambient, rfl⟩ := isManagement
    by_cases carried : carriedOut watched.server (.message con (.management request) ambient) =
        some (request, ambient.userId)
    · exact accountsDisabled_carriedOut disabled stepped carried
    · obtain ⟨table, listed⟩ := management_idle stepped carried
      refine ⟨fun _ other userId alsoCarried => ?_, fun _ => same table listed⟩
      obtain ⟨_, _, isEvent, rfl⟩ := carriedOut_some alsoCarried
      cases isEvent
      exact absurd alsoCarried carried
  · have other : ∀ con request ambient, event ≠ .message con (.management request) ambient :=
      fun con request ambient isEvent => isManagement ⟨con, request, ambient, isEvent⟩
    refine ⟨fun _ request userId carried => ?_, fun _ => same (serverStep_table stepped other)
      (watch_other other)⟩
    obtain ⟨con, ambient, isEvent, _⟩ := carriedOut_some carried
    exact absurd isEvent (other con request ambient)

theorem getAccount_error {manager : AccountManager} {account : String} {executed : Bool}
    {err : Int} (failed : manager.getAccount account executed = .error err) :
    err ≠ Err.noError := by
  simp only [AccountManager.getAccount] at failed
  split at failed
  · cases failed
    decide
  · split at failed
    · cases failed
      decide
    · contradiction

theorem checkLogin_error {request : LoginRequest} {refusal : Refusal}
    (refused : checkLogin md5 state request ambient = .error refusal) :
    refusal.errCode ≠ Err.noError := by
  simp only [checkLogin] at refused
  split at refused
  · cases refused
    exact (by decide : Err.invalidParams ≠ Err.noError)
  · split at refused
    · cases refused
      exact (by decide : Err.operateFailed ≠ Err.noError)
    · split at refused
      · split at refused
        · contradiction
        · cases refused
          exact (by decide : Err.passwordIncorrect ≠ Err.noError)
      · split at refused
        · rename_i err looked
          cases refused
          exact getAccount_error looked
        · split at refused
          · cases refused
            exact (by decide : Err.accountBlocked ≠ Err.noError)
          · split at refused
            · cases refused
              exact (by decide : Err.accountDisabled ≠ Err.noError)
            · split at refused
              · cases refused
                exact (by decide : Err.passwordIncorrect ≠ Err.noError)
              · split at refused
                · cases refused
                  exact (by decide : Err.invalidParams ≠ Err.noError)
                · contradiction

theorem checkLogin_disabled {request : LoginRequest}
    (disabled : state.accountManager.Disabled (cStr request.account))
    (account : request.role ≠ Role.manager) :
    ∃ refusal, checkLogin md5 state request ambient = .error refusal := by
  simp only [checkLogin]
  split
  · exact ⟨_, rfl⟩
  · split
    · exact ⟨_, rfl⟩
    · split
      · exact ⟨_, rfl⟩
      · rename_i info found
        have isDisabled := disabled.getAccount found
        split <;> exact ⟨_, rfl⟩

def Output.Unwelcoming (output : Output) : Prop :=
  ∀ errString userId, output.packet.body ≠ .login Err.noError errString userId

theorem respondLogin_sends {middle : ServerState} {errCode : Int} (errString : String)
    (info : Account) (outputs : middle.outputs = state.outputs) (refused : errCode ≠ Err.noError) :
    Sends Output.Unwelcoming state (respondLogin middle con errCode errString info) := by
  refine Sends.put ?_ (Sends.same outputs)
  intro other userId welcome
  injection welcome with isNone
  exact refused isNone

theorem requestLogin_unwelcoming {connection : Connection} {request : LoginRequest}
    {refusal : Refusal} (refused : checkLogin md5 state request ambient = .error refusal) :
    Sends Output.Unwelcoming state (requestLogin md5 state con connection request ambient) := by
  simp only [requestLogin]
  split
  · exact respondLogin_sends _ _ rfl (by decide)
  · split
    · exact respondLogin_sends _ _ rfl (by decide)
    · apply Sends.parse
      intro _
      rw [refused]
      refine respondLogin_sends _ _ ?_ (checkLogin_error refused)
      split <;> rfl

theorem AccountsDisabled.loginsRefused {watched : Watched} (disabled : AccountsDisabled watched) :
    LoginsRefused md5 watched event := by
  rintro next con request ambient stepped rfl revoked account
  obtain ⟨_, happened⟩ := serverStep_some.mp stepped
  obtain ⟨connection, _, _, _, rfl⟩ := eventStep_message happened
  have isDisabled : ({ watched.server with outputs := [] } : ServerState).accountManager.Disabled
      (cStr request.account) := disabled _ revoked
  obtain ⟨refusal, refused⟩ := @checkLogin_disabled md5 _ ambient _ isDisabled account
  have unattempted : loginAttempt md5 { watched.server with outputs := [] } connection request
      ambient = none := by
    simp only [loginAttempt]
    split
    · rfl
    · rw [refused]
      rfl
  refine ⟨(requestLogin_refused md5 unattempted).connections, fun output sent => ?_⟩
  rcases requestLogin_unwelcoming refused output sent with earlier | unwelcoming
  · contradiction
  · exact unwelcoming

end

/-- Revoked accounts are disabled and refused, and with the answer everybody bound to them is
told to disconnect, in exactly those runs in which there is nothing to revoke: who is disabled
is not in the table, nobody adds an account under a revoked name, and nobody is connected under
a name that is disabled or deleted except those told before. Names are compared up to their
first NUL, as the table does. -/
theorem revocation_iff (md5 : String → String) (accountManager : AccountManager)
    (events : List Event) :
    (Transition.Throughout (watchedStep md5) AccountsDisabled
        { server := initialServer accountManager } events ∧
      Transition.Happening (watchedStep md5) (LoginsRefused md5)
        { server := initialServer accountManager } events ∧
      Transition.Happening (watchedStep md5) (RevocationTold md5)
        { server := initialServer accountManager } events) ↔
      Transition.Happening (watchedStep md5) NothingToRevoke
        { server := initialServer accountManager } events := by
  have tables : Transition.Throughout (watchedStep md5) AccountsDisabled
        { server := initialServer accountManager } events ↔
      Transition.Happening (watchedStep md5) DisablesAbsent
        { server := initialServer accountManager } events := by
    refine Transition.Throughout.iff_happening _ (fun _ => True) ?_ trivial ?_
    · intro watched event after _ disabled stepped
      obtain ⟨next, happened, rfl⟩ := Option.map_eq_some_iff.mp stepped
      exact ⟨trivial, accountsDisabled_step disabled happened⟩
    · intro account revoked
      contradiction
  have told : ∀ watched event after, watchedStep md5 watched event = some after →
      (RevocationTold md5 watched event ↔ RevokesUnbound watched event) := by
    intro watched event after stepped
    obtain ⟨next, happened, _⟩ := Option.map_eq_some_iff.mp stepped
    exact revocationTold_iff happened
  unfold NothingToRevoke
  rw [Transition.Happening.and_iff, ← tables]
  constructor
  · rintro ⟨throughout, _, happening⟩
    exact ⟨throughout, happening.mono _ fun watched event after stepped =>
      (told watched event after stepped).mp⟩
  · rintro ⟨throughout, happening⟩
    refine ⟨throughout, throughout.happening _ ?_, happening.mono _ ?_⟩
    · intro watched event after disabled _
      exact disabled.loginsRefused
    · intro watched event after stepped
      exact (told watched event after stepped).mpr

end

def disabling : List Event := [
  .connect 1 .management "10.0.0.1",
  .connect 2 .application "10.0.0.2",
  .message 1 (.login {
    account := "", password := "admin", role := Role.manager, secretKey := "k" }) {},
  .message 2 (.login {
    account := "visitor", password := "", role := Role.screenVisitor, secretKey := "k" }) {}]

theorem disabling_enables :
    ∃ watched after,
      Transition.run (watchedStep noDigest) { server := initialServer twoAccounts } disabling =
        some watched ∧
      watchedStep noDigest watched (.message 1 (.management (.disableAccount 0 "visitor")) {}) =
        some after ∧
      ¬ AccountsDisabled after ∧ ¬ RevocationTold noDigest watched
        (.message 1 (.management (.disableAccount 0 "visitor")) {}) := by
  refine ⟨_, _, rfl, rfl, fun disabled => ?_, fun told => ?_⟩
  · have isDisabled := disabled "visitor" rfl { id := 2, account := "visitor" } (by decide) rfl
    contradiction
  · have isTold := told _ 1 _ {} _ _ rfl rfl rfl rfl 2 _ _ rfl rfl rfl rfl rfl
    contradiction

end EasyViewer
