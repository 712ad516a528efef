import EasyViewer.FailureCounts
import EasyViewer.ServerOutputs

/-!
What a step of the servers does to the black list, and how many passwords can be guessed from
one address: every wrong one is counted, and the fifth within an hour closes the address.
-/

namespace EasyViewer

/-- What the black list is asked to do for a manager. -/
def ManagementRequest.blackListCall (state : ServerState) (ambient : Ambient) :
    ManagementRequest → BlackListCall
  | .removeBlockedIPAddress _ ipAddress => .removeIPAddress ipAddress
  | .addBlockedIPAddress _ ipAddress duration => .addIPAddress ipAddress duration
  | .removeBlockedAccount _ userId => .removeAccount userId
  | .addBlockedAccount _ userId duration =>
      match state.accountManager.getAccountById userId ambient.executed with
      | .error _ => .listAccounts
      | .ok account => .addAccount account duration
  | .listBlockedIPAddresses _ => .listIPAddresses
  | _ => .listAccounts

def managerCall (state : ServerState) : Event → Option BlackListCall
  | .message con (.management request) ambient =>
      match state.connections con with
      | none => none
      | some connection =>
          if connection.role = Role.flagManager ∧ ambient.readable = true then
            some (request.blackListCall state ambient)
          else none
  | _ => none

def Counting (state : ServerState) (t : Int) (next : ServerState) : Prop :=
  next.blackList = state.blackList ∨
    ∃ request : BlackListCall, (∃ key, request.increases = some key) ∧
      next.blackList = state.blackList.call request t

namespace Counting

variable {state : ServerState} {t : Int}

theorem same {next : ServerState} (kept : next.blackList = state.blackList) :
    Counting state t next := .inl kept

theorem parse {body : ServerState} {con : ConnectionId} {connection : Connection}
    {ambient : Ambient} (readable : Counting state ambient.seconds body) :
    Counting state ambient.seconds (state.parse con connection ambient body) := by
  apply ServerState.parse_elim
  · exact .inr ⟨.increaseIPAddress connection.peerIP, ⟨_, rfl⟩, rfl⟩
  · exact fun _ => readable

theorem checked {con : ConnectionId} {connection : Connection} {roleChecked : Bool}
    {body : Account → ServerState} (passed : ∀ user, Counting state t (body user)) :
    Counting state t (state.checked con connection roleChecked body) :=
  ServerState.checked_elim (.same rfl) fun user _ _ => passed user

end Counting

@[simp] theorem relayToViewers_blackList (state : ServerState) (source : ConnectionId) (kind : Kind)
    (packet : Packet) (viewers : List Viewer) :
    (state.relayToViewers source kind packet viewers).blackList = state.blackList := by
  induction viewers generalizing state with
  | nil => rfl
  | cons viewer viewers ih => exact ih _

@[simp] theorem removeRoom_blackList (state : ServerState) (kind : Kind) (userId : UserId) :
    (state.removeRoom kind userId).blackList = state.blackList := by
  simp only [ServerState.removeRoom]
  split <;> rfl

theorem removeRooms_blackList (userId : UserId) (kinds : List Kind) (state : ServerState) :
    (removeRooms userId kinds state).blackList = state.blackList := by
  induction kinds generalizing state with
  | nil => rfl
  | cons kind kinds ih => exact (ih _).trans (removeRoom_blackList ..)

theorem closeRooms_blackList (role : UInt32) (userId : UserId) (kinds : List Kind)
    (state : ServerState) : (closeRooms role userId kinds state).blackList = state.blackList := by
  induction kinds generalizing state with
  | nil => rfl
  | cons kind kinds ih =>
      simp only [closeRooms]
      split
      · split
        · rfl
        · exact (ih _).trans (removeRoom_blackList ..)
      · exact ih state

theorem leaveRoom_blackList (state : ServerState) (con : ConnectionId) (kind : Kind)
    (userId : UserId) : (leaveRoom state con kind userId).blackList = state.blackList := by
  simp only [leaveRoom]
  split
  · rfl
  · split
    · split <;> rfl
    · split <;> rfl

theorem cleanUserConnection_blackList (state : ServerState) (con : ConnectionId)
    (connection : Connection) :
    (cleanUserConnection state con connection).blackList = state.blackList := by
  have rooms : (cleanRooms state con connection).blackList = state.blackList := by
    simp only [cleanRooms]
    split
    · rfl
    · split
      · exact closeRooms_blackList ..
      · split
        · split
          · rfl
          · exact leaveRoom_blackList ..
        · rfl
  simp only [cleanUserConnection]
  split
  · rfl
  · split
    · exact rooms
    · exact rooms

theorem completeLogin_blackList (state : ServerState) (con : ConnectionId)
    (connection : Connection) (info : Account) (role : UInt32) (secretKey : String) :
    (completeLogin state con connection info role secretKey).blackList = state.blackList := by
  simp only [completeLogin]
  split
  · split
    · rfl
    · exact removeRooms_blackList ..
  · rfl

section

variable (md5 : String → String) (state : ServerState) (con : ConnectionId)
  (connection : Connection) (ambient : Ambient)

theorem requestLogin_counting (request : LoginRequest) :
    Counting state ambient.seconds (requestLogin md5 state con connection request ambient) := by
  simp only [requestLogin]
  split
  · exact .same rfl
  · split
    · exact .same rfl
    · apply Counting.parse
      split
      · split
        · exact .inr ⟨.increaseIPAddress connection.peerIP, ⟨_, rfl⟩, rfl⟩
        · exact .same rfl
      · exact .same (completeLogin_blackList ..)

theorem requestVisit_counting (kind : Kind) (request : VisitRequest) :
    Counting state ambient.seconds (requestVisit kind state con connection request ambient) := by
  refine .checked fun user => ?_
  split
  · exact .same rfl
  · apply Counting.parse
    split
    · exact .same rfl
    · split
      · exact .same rfl
      · split <;> exact .same rfl

theorem destroy_blackList (taskId : Nat) (certificate : UInt32) :
    (state.destroy taskId certificate).2.blackList = state.blackList := by
  simp only [ServerState.destroy]
  split
  · rfl
  · split <;> rfl

theorem handleResponse_counting (task : VisitTask) (response : VisitResponse) :
    Counting state ambient.seconds (task.handleResponse state con response ambient) := by
  simp only [VisitTask.handleResponse]
  split
  · split
    · exact .same rfl
    · split
      · split <;> exact .same rfl
      · refine .same ?_
        simp only [VisitTask.feedback, VisitTask.closeRefused]
        split <;> rfl
  · split
    · exact .inr ⟨.increaseAccount _, ⟨_, rfl⟩, rfl⟩
    · exact .same rfl

theorem Counting.of_blackList {before next : ServerState} {t : Int}
    (same : before.blackList = state.blackList) (counting : Counting before t next) :
    Counting state t next := by
  rw [Counting, same] at counting
  exact counting

theorem responseVisit2_counting (kind : Kind) (response : VisitResponse) :
    Counting state ambient.seconds
      (responseVisit2 kind state con connection response ambient) := by
  refine .checked fun user => .parse ?_
  have kept := destroy_blackList state response.taskId response.certificate
  split
  next task destroyed found =>
    rw [found] at kept
    split
    · exact .of_blackList state kept (handleResponse_counting destroyed con ambient task response)
    · exact .same kept
  next destroyed found =>
    rw [found] at kept
    split <;> exact .same kept

theorem fileRequest_counting (handler : UsualRequest) (request : FileMessage) :
    Counting state ambient.seconds (handler.handle state con connection request ambient) := by
  refine .checked fun user => .parse (.same ?_)
  simp only
  split
  · split
    · rfl
    · split <;> rfl
  · split
    · rfl
    · split
      · rfl
      · exact relayToViewers_blackList ..

theorem fileResponse_counting (handler : UsualResponseHandler) (response : FileMessage) :
    Counting state ambient.seconds (handler.handle state con connection response ambient) := by
  refine .checked fun user => .parse (.same ?_)
  simp only
  split
  · split
    · rfl
    · split <;> rfl
  · split
    · rfl
    · split
      · rfl
      · exact relayToViewers_blackList ..

theorem setClipboardText_counting (t : Int) (data : List UInt8) :
    Counting state t (setClipboardText state con connection data) := by
  refine .checked fun user => .same ?_
  simp only
  split
  · split
    · rfl
    · split <;> rfl
  · split
    · split
      · rfl
      · exact relayToViewers_blackList ..
    · rfl

theorem publishToScreen_counting (t : Int) (tag : UInt32) (data : List UInt8) :
    Counting state t (publishToScreen tag state con connection data) := by
  refine .checked fun user => .same ?_
  split
  · rfl
  · exact relayToViewers_blackList ..

theorem terminalInput_counting (tag : UInt32) (request : TerminalMessage) :
    Counting state ambient.seconds
      (terminalInput tag state con connection request ambient) := by
  refine .checked fun user => .parse (.same ?_)
  split
  · rfl
  · simp only
    split <;> rfl

theorem publishTerminalOutput_counting (publish : TerminalMessage) :
    Counting state ambient.seconds
      (publishTerminalOutput state con connection publish ambient) := by
  refine .checked fun user => .parse (.same ?_)
  split
  · rfl
  · split
    · rfl
    · exact relayToViewers_blackList ..

theorem kickoutTerminalVisitor_counting (terminalId : String) :
    Counting state ambient.seconds
      (kickoutTerminalVisitor state con connection terminalId ambient) := by
  refine .checked fun user => .parse (.same ?_)
  split
  · rfl
  · split <;> rfl

theorem screenControl_counting (t : Int) (control : ScreenControl) (data : List UInt8) :
    Counting state t (screenVisitorTransferingOnly control state con connection data) := by
  refine .checked fun user => .same ?_
  split <;> rfl

theorem handle_counting (message : ClientMessage)
    (client : ∀ request, message ≠ .management request) :
    Counting state ambient.seconds (handle md5 state con connection message ambient) := by
  cases message with
  | echo seq time => exact .checked fun user => .parse (.same rfl)
  | login request => exact requestLogin_counting md5 state con connection ambient request
  | requestVisit kind request =>
      exact requestVisit_counting state con connection ambient kind request
  | responseVisit2 kind response =>
      exact responseVisit2_counting state con connection ambient kind response
  | fileRequest which request =>
      exact fileRequest_counting state con connection ambient which.handler request
  | fileResponse which response =>
      exact fileResponse_counting state con connection ambient which.handler response
  | screenControl control data => exact screenControl_counting state con connection _ control data
  | setClipboardText data => exact setClipboardText_counting state con connection _ data
  | publishScreenFrame data => exact publishToScreen_counting state con connection _ _ data
  | publishCursorPosition data => exact publishToScreen_counting state con connection _ _ data
  | writeCommand request => exact terminalInput_counting state con connection ambient _ request
  | resizeTerminal request => exact terminalInput_counting state con connection ambient _ request
  | publishTerminalOutput publish =>
      exact publishTerminalOutput_counting state con connection ambient publish
  | kickoutTerminalVisitor terminalId =>
      exact kickoutTerminalVisitor_counting state con connection ambient terminalId
  | management request => exact absurd rfl (client request)

theorem manage_blackList (request : ManagementRequest) :
    (manage md5 state con request ambient).blackList =
      state.blackList.call (request.blackListCall state ambient) ambient.seconds := by
  cases request with
  | listAccount seq filter =>
      simp only [manage, requestListAccount]
      split <;> rfl
  | addAccount seq account password => rfl
  | enableAccount seq account => rfl
  | disableAccount seq account =>
      simp only [manage, requestDisableAccount]
      split <;> rfl
  | deleteAccount seq account =>
      simp only [manage, requestDeleteAccount]
      split <;> rfl
  | changeAccountPassword seq account password => rfl
  | listBlockedIPAddresses seq =>
      simp only [manage, requestListBlockedIPAddresses]
      split <;> rfl
  | removeBlockedIPAddress seq ipAddress => rfl
  | addBlockedIPAddress seq ipAddress duration => rfl
  | listBlockedAccounts seq =>
      simp only [manage, requestListBlockedAccounts]
      split <;> rfl
  | removeBlockedAccount seq userId => rfl
  | addBlockedAccount seq userId duration =>
      simp only [manage, requestAddBlockedAccount, ManagementRequest.blackListCall]
      cases state.accountManager.getAccountById userId ambient.executed <;> rfl

end

/-- When a message is handled, by the clock the black list reads. -/
def Event.seconds : Event → Option Int
  | .message _ _ ambient => some ambient.seconds
  | _ => none

/-- A step does one thing at most to the black list: what a manager asks for, or a count. -/
def Touches (state : ServerState) (event : Event) (t : Int) (next : ServerState) : Prop :=
  ∃ request : BlackListCall, next.blackList = state.blackList.call request t ∧
    (managerCall state event = some request ∨
      managerCall state event = none ∧ request.adds = none ∧ request.removes = none)

theorem Touches.of_counting {state next : ServerState} {event : Event} {t : Int}
    (nobody : managerCall state event = none) (counting : Counting state t next) :
    Touches state event t next := by
  rcases counting with same | ⟨request, ⟨key, increases⟩, called⟩
  · exact ⟨.listAccounts, same, .inr ⟨nobody, rfl, rfl⟩⟩
  · refine ⟨request, called, .inr ⟨nobody, ?_⟩⟩
    cases request with
    | increaseIPAddress ip | increaseAccount account => exact ⟨rfl, rfl⟩
    | _ => cases increases

section

variable (md5 : String → String) {state next : ServerState} {event : Event}

theorem handleManagement_touches {con : ConnectionId} {connection : Connection}
    (bound : state.connections con = some connection) (request : ManagementRequest)
    (ambient : Ambient) :
    Touches state (.message con (.management request) ambient) ambient.seconds
      (handleManagement md5 state con connection request ambient) := by
  have asked : managerCall state (.message con (.management request) ambient) =
      if connection.role = Role.flagManager ∧ ambient.readable = true then
        some (request.blackListCall state ambient)
      else none := by
    rw [managerCall, bound]
  rw [handleManagement]
  split
  next stranger =>
    exact .of_counting (asked.trans (if_neg fun both => stranger both.1)) (.same rfl)
  next manager =>
    by_cases readable : ambient.readable = true
    · rw [ServerState.parse_readable readable]
      exact ⟨_, manage_blackList md5 state con ambient request,
        .inl (asked.trans (if_pos ⟨not_not.mp manager, readable⟩))⟩
    · refine .of_counting (asked.trans (if_neg fun both => readable both.2)) ?_
      rw [ServerState.parse, if_neg readable]
      exact .inr ⟨.increaseIPAddress connection.peerIP, ⟨_, rfl⟩, rfl⟩

theorem eventStep_touches (stepped : eventStep md5 state event = some next) (now : Int) :
    Touches state event (event.seconds.getD now) next := by
  cases event with
  | connect con server peerIP =>
      simp only [eventStep] at stepped
      split at stepped
      · cases stepped
      · cases stepped
        exact .of_counting rfl (.same rfl)
  | message con message ambient =>
      simp only [eventStep] at stepped
      split at stepped
      · cases stepped
      · split at stepped
        · cases stepped
          rename_i connection bound _
          by_cases client : ∃ request, message = .management request
          · obtain ⟨request, rfl⟩ := client
            exact handleManagement_touches md5 bound request ambient
          · refine .of_counting ?_ (handle_counting md5 state con connection ambient message
              fun request same => client ⟨request, same⟩)
            cases message with
            | management request => exact absurd ⟨request, rfl⟩ client
            | _ => rfl
        · cases stepped
  | disconnect con =>
      cases stepped
      exact .of_counting rfl (.same rfl)
  | removeConnection con =>
      cases stepped
      exact .of_counting rfl (.same rfl)
  | clean con =>
      simp only [eventStep] at stepped
      split at stepped
      · cases stepped
      · split at stepped
        · cases stepped
        · cases stepped
          exact .of_counting rfl (.same (cleanUserConnection_blackList ..))
  | execute taskId =>
      simp only [eventStep] at stepped
      split at stepped
      · cases stepped
      · split at stepped
        · cases stepped
        · cases stepped
          refine .of_counting rfl (.same ?_)
          simp only [executeTask, VisitTask.execute]
          split <;> rename_i found <;> split at found <;> cases found <;> rfl
  | timeout taskId now =>
      simp only [eventStep] at stepped
      split at stepped
      · cases stepped
      · split at stepped
        · cases stepped
          exact .of_counting rfl (.same rfl)
        · cases stepped
  | collect taskId =>
      simp only [eventStep] at stepped
      split at stepped
      · cases stepped
      · split at stepped
        · cases stepped
          exact .of_counting rfl (.same rfl)
        · cases stepped

theorem serverStep_touches (stepped : serverStep md5 state event = some next) (now : Int) :
    Touches state event (event.seconds.getD now) next := by
  simp only [serverStep] at stepped
  split at stepped
  · cases stepped
  · exact eventStep_touches md5 stepped now

def tellsWrongPassword (con : ConnectionId) : Output → Bool
  | .send target { tag := _, body := .login errCode _ _ } =>
      target = con && errCode = Err.passwordIncorrect
  | _ => false

def wrongGuess (state next : ServerState) : Event → Option String
  | .message con (.login _) _ =>
      if next.outputs.any (tellsWrongPassword con) then
        (state.connections con).map Connection.peerIP
      else none
  | _ => none

theorem getAccount_otherError {manager : AccountManager} {account : String} {executed : Bool}
    {err : Int}
    (missing : manager.getAccount account executed = .error err) : err ≠ Err.passwordIncorrect := by
  rw [AccountManager.getAccount] at missing
  split at missing
  · cases missing
    decide
  · split at missing
    · cases missing
      decide
    · cases missing

theorem checkLogin_blames {request : LoginRequest} {ambient : Ambient} {refusal : Refusal}
    (refused : checkLogin md5 state request ambient = .error refusal)
    (wrong : refusal.errCode = Err.passwordIncorrect) : refusal.blame = true := by
  rw [checkLogin] at refused
  split at refused
  · cases refused
    rfl
  · split at refused
    · cases refused
      exact absurd wrong (by decide : Err.operateFailed ≠ Err.passwordIncorrect)
    · split at refused
      · split at refused
        · cases refused
        · cases refused
          rfl
      · split at refused
        next err missing =>
          cases refused
          exact absurd wrong (getAccount_otherError missing)
        next info found =>
          split at refused
          · cases refused
            exact absurd wrong (by decide : Err.accountBlocked ≠ Err.passwordIncorrect)
          · split at refused
            · cases refused
              exact absurd wrong (by decide : Err.accountDisabled ≠ Err.passwordIncorrect)
            · split at refused
              · cases refused
                rfl
              · split at refused
                · cases refused
                  exact absurd wrong (by decide : Err.invalidParams ≠ Err.passwordIncorrect)
                · cases refused

theorem respondLogin_told {con : ConnectionId} {errCode : Int} {errString : String} {info : Account}
    (fresh : state.outputs = [])
    (told : (respondLogin state con errCode errString info).outputs.any
      (tellsWrongPassword con) = true) : errCode = Err.passwordIncorrect := by
  simpa [respondLogin, ServerState.send, ServerState.put, fresh, tellsWrongPassword] using told

theorem requestLogin_told {con : ConnectionId} {connection : Connection} {request : LoginRequest}
    {ambient : Ambient} (fresh : state.outputs = [])
    (told : (requestLogin md5 state con connection request ambient).outputs.any
      (tellsWrongPassword con) = true) :
    state.blackList.checkIPAddress connection.peerIP ambient.seconds = true ∧
      (requestLogin md5 state con connection request ambient).blackList =
        state.blackList.increaseIPAddress connection.peerIP ambient.seconds := by
  rw [requestLogin] at told ⊢
  split at told
  next => exact absurd (respondLogin_told fresh told) (by decide)
  next open' =>
    rw [if_neg open']
    refine ⟨by simpa using open', ?_⟩
    split at told
    next => exact absurd (respondLogin_told fresh told) (by decide)
    next unbound =>
      rw [if_neg unbound]
      by_cases readable : ambient.readable = true
      · rw [ServerState.parse_readable readable] at told ⊢
        cases checked : checkLogin md5 state request ambient with
        | error refusal =>
            rw [checked] at told
            simp only at told ⊢
            have wrong : refusal.errCode = Err.passwordIncorrect := by
              refine respondLogin_told ?_ told
              split
              · exact fresh
              · exact fresh
            rw [if_pos (checkLogin_blames md5 checked wrong)]
            rfl
        | ok info =>
            rw [checked] at told
            simp only [completeLogin] at told
            split at told
            · split at told
              · exact absurd (respondLogin_told fresh told) (by decide)
              · refine absurd (respondLogin_told ?_ told)
                  (by decide : Err.unknow ≠ Err.passwordIncorrect)
                exact (removeRooms_outputs ..).trans fresh
            · exact absurd (respondLogin_told fresh told) (by decide)
      · rw [ServerState.parse, if_neg readable]
        rfl

theorem wrongGuess_counted {ip : String} (stepped : serverStep md5 state event = some next)
    (guessed : wrongGuess state next event = some ip) :
    ∃ t, event.seconds = some t ∧ state.blackList.check ip t = true ∧
      next.blackList = state.blackList.call (.increaseIPAddress ip) t := by
  simp only [wrongGuess] at guessed
  split at guessed
  next con request ambient =>
    split at guessed
    next told =>
      simp only [serverStep, eventStep] at stepped
      split at stepped
      · cases stepped
      · split at stepped
        · cases stepped
        next connection bound =>
          rw [bound] at guessed
          cases guessed
          split at stepped
          · cases stepped
            obtain ⟨isOpen, counted⟩ := requestLogin_told md5 rfl told
            exact ⟨ambient.seconds, rfl, isOpen, counted⟩
          · cases stepped
    next => cases guessed
  next => cases guessed

end

/-! The times of the wrong guesses from one address, the latest first, since a manager last
touched its record. -/

structure Guesses (history : CountHistory) (ip : String) (times : List Int) : Prop where
  counted : times.Sublist (history.counted ip)
  sorted : times.Pairwise fun recent earlier => earlier ≤ recent
  /-- Five within an hour have closed the address for an hour from the last of them. -/
  closed : ∀ {index recent first}, times[index]? = some recent → times[index + 4]? = some first →
    BlackList.hour first = BlackList.hour recent → BlockedUpTo ip (recent + 3600) history
  hourly : ∀ {index recent first}, times[index]? = some recent → times[index + 5]? = some first →
    BlackList.hour first < BlackList.hour recent
  spaced : ∀ {index recent first}, times[index]? = some recent → times[index + 9]? = some first →
    first + 3600 < recent

section

variable {history next : CountHistory} {request : BlackListCall} {t : Int} {ip : String}
  {times : List Int}

theorem Guesses.none (history : CountHistory) (ip : String) : Guesses history ip [] where
  counted := List.nil_sublist _
  sorted := .nil
  closed found := nomatch found
  hourly found := nomatch found
  spaced found := nomatch found

theorem Guesses.keep (guesses : Guesses history ip times) (counted : Counted history)
    (stepped : countStep history (request, t) = some next) (stays : ¬ Resets request ip) :
    Guesses next ip times where
  counted := by
    have removes : request.removes ≠ some ip := fun removes => stays (.inr removes)
    rw [(countStep_ghost stepped ip).1, if_neg removes]
    split
    · exact guesses.counted.cons t
    · exact guesses.counted
  sorted := guesses.sorted
  closed recent first same := (guesses.closed recent first same).step counted stepped stays
  hourly := guesses.hourly
  spaced := guesses.spaced

theorem BlockedUpTo.refused {limit : Int} (blocked : BlockedUpTo ip limit history)
    (early : t ≤ limit) : history.blackList.check ip t = false := by
  obtain ⟨-, status, found, isBlocked, late⟩ := blocked
  simp only [BlackList.check, found, isBlocked, Bool.true_and, Bool.not_eq_false',
    decide_eq_true_eq]
  omega

theorem hour_bounds (t : Int) :
    3600 * BlackList.hour t ≤ t ∧ t < 3600 * BlackList.hour t + 3600 := by
  simp only [BlackList.hour]
  omega

/-- Five guesses ago is another hour, as the fifth of an hour closes the address. -/
theorem Guesses.fifth_before (guesses : Guesses history ip times)
    (isOpen : history.blackList.check ip t = true) (latest : ∀ time ∈ times, time ≤ t) {first : Int}
    (found : times[4]? = some first) : BlackList.hour first < BlackList.hour t := by
  have below := BlackList.hour_monotone (latest first (List.mem_of_getElem? found))
  refine lt_of_le_of_ne below fun same => ?_
  cases recent : times[0]? with
  | none =>
      rw [List.getElem?_eq_none_iff] at recent
      rw [List.getElem?_eq_none (by omega)] at found
      cases found
  | some recent' =>
      have inOrder : first ≤ recent' := by
        obtain ⟨bound, rfl⟩ := List.getElem?_eq_some_iff.mp found
        obtain ⟨small, rfl⟩ := List.getElem?_eq_some_iff.mp recent
        exact List.pairwise_iff_getElem.mp guesses.sorted 0 4 small bound (by decide)
      have upper := latest recent' (List.mem_of_getElem? recent)
      have one := BlackList.hour_monotone inOrder
      have two := BlackList.hour_monotone upper
      have blocked := guesses.closed recent found (by omega)
      have early := (hour_bounds t).2
      have late := (hour_bounds recent').1
      rw [blocked.refused (by omega)] at isOpen
      cases isOpen

theorem Guesses.ninth_before (guesses : Guesses history ip times)
    (isOpen : history.blackList.check ip t = true) (latest : ∀ time ∈ times, time ≤ t) {first : Int}
    (found : times[8]? = some first) : first + 3600 < t := by
  by_contra close
  obtain ⟨bound, rfl⟩ := List.getElem?_eq_some_iff.mp found
  have middle : times[4]? = some times[4] := List.getElem?_eq_getElem (by omega)
  have inOrder : times[8] ≤ times[4] :=
    List.pairwise_iff_getElem.mp guesses.sorted 4 8 (by omega) bound (by decide)
  have older := guesses.fifth_before isOpen latest middle
  have one := BlackList.hour_monotone inOrder
  have within := hour_bounds times[8]
  have within' := hour_bounds t
  have blocked := guesses.closed middle found (by omega)
  rw [blocked.refused (by omega)] at isOpen
  cases isOpen

theorem Guesses.guess (guesses : Guesses history ip times) (counted : Counted history)
    (stepped : countStep history (request, t) = some next)
    (increases : request.increases = some ip) (isOpen : history.blackList.check ip t = true) :
    Guesses next ip (t :: times) := by
  have stays : ¬ Resets request ip := not_resets_of_increases increases
  have kept := guesses.keep counted stepped stays
  obtain ⟨order, now, called⟩ := countStep_eq stepped
  have removes : request.removes ≠ some ip := fun removes => stays (.inr removes)
  have ghost : next.counted ip = t :: history.counted ip := by
    rw [(countStep_ghost stepped ip).1, if_neg removes, if_pos (.inl increases)]
  have latest : ∀ time ∈ times, time ≤ t := fun time member =>
    (counted.past ip time (guesses.counted.subset member)).trans order
  have sublist : (t :: times).Sublist (next.counted ip) := ghost ▸ guesses.counted.cons_cons t
  have sorted : (t :: times).Pairwise fun recent earlier => earlier ≤ recent :=
    List.pairwise_cons.mpr ⟨latest, guesses.sorted⟩
  refine ⟨sublist, sorted, ?_, ?_, ?_⟩
  · intro index recent first found found' same
    cases index with
    | zero =>
        obtain rfl : t = recent := by simpa using found
        have five := WindowCount.lt_inWindow BlackList.hour_monotone sorted
          (List.forall_mem_cons.mpr ⟨le_rfl, latest⟩) found' same
        have many : 5 ≤ WindowCount.inWindow BlackList.hour t (next.counted ip) :=
          five.trans_le sublist.countP_le
        obtain ⟨status, record, blocked, until'⟩ := counted.fifth increases stepped many
        exact ⟨by omega, status, record, blocked, until'.ge⟩
    | succ index => exact kept.closed (by simpa using found) (by simpa using found') same
  · intro index recent first found found'
    cases index with
    | zero =>
        obtain rfl : t = recent := by simpa using found
        exact guesses.fifth_before isOpen latest (by simpa using found')
    | succ index => exact kept.hourly (by simpa using found) (by simpa using found')
  · intro index recent first found found'
    cases index with
    | zero =>
        obtain rfl : t = recent := by simpa using found
        exact guesses.ninth_before isOpen latest (by simpa using found')
    | succ index => exact kept.spaced (by simpa using found) (by simpa using found')

end

instance (request : BlackListCall) (key : String) : Decidable (Resets request key) :=
  inferInstanceAs (Decidable (_ ∨ _))

/-- The servers under a clock that does not go back, with the times of the wrong guesses from
each address, the latest first, since a manager last touched its record. -/
structure GuessHistory where
  server : ServerState
  now : Int
  guesses : String → List Int := fun _ => []

section

variable (md5 : String → String)

def guessStep (history : GuessHistory) (event : Event) : Option GuessHistory :=
  let t := event.seconds.getD history.now
  if t < history.now then none
  else
    (serverStep md5 history.server event).map fun next => {
      server := next
      now := t
      guesses := fun ip =>
        if (managerCall history.server event).any fun request => Resets request ip then []
        else if wrongGuess history.server next event = some ip then t :: history.guesses ip
        else history.guesses ip }

/-- The black list of the servers is that of a counting history. -/
def GuessesCounted (history : GuessHistory) : Prop :=
  ∃ counts : CountHistory, counts.blackList = history.server.blackList ∧
    counts.now ≤ history.now ∧ Counted counts ∧ ∀ ip, Guesses counts ip (history.guesses ip)

theorem wrongGuess_nobody {state next : ServerState} {event : Event} {ip : String}
    (guessed : wrongGuess state next event = some ip) : managerCall state event = none := by
  simp only [wrongGuess] at guessed
  split at guessed
  · rfl
  · cases guessed

theorem GuessesCounted.step {history next : GuessHistory} {event : Event}
    (before : GuessesCounted history) (stepped : guessStep md5 history event = some next) :
    GuessesCounted next := by
  obtain ⟨counts, same, past, counted, guesses⟩ := before
  simp only [guessStep] at stepped
  split at stepped
  · cases stepped
  · rename_i order
    obtain ⟨server, ran, rfl⟩ := Option.map_eq_some_iff.mp stepped
    let t := event.seconds.getD history.now
    have goes : ∀ request, ∃ after, countStep counts (request, t) = some after ∧ after.now = t ∧
        after.blackList = history.server.blackList.call request t := by
      intro request
      have later : ¬ t < counts.now := by omega
      exact ⟨_, if_neg later, rfl, by rw [← same]⟩
    cases guessed : wrongGuess history.server server event with
    | some guesser =>
        obtain ⟨time, timed, isOpen, called⟩ := wrongGuess_counted md5 ran guessed
        have atTime : t = time := congrArg (Option.getD · history.now) timed
        obtain ⟨after, counting, now, black⟩ := goes (.increaseIPAddress guesser)
        refine ⟨after, by rw [black, called, atTime], now.le, counted.step counting, fun ip => ?_⟩
        simp only [wrongGuess_nobody guessed, Option.any_none, Bool.false_eq_true, if_false,
          Option.some.injEq]
        split
        next own =>
          subst own
          have stillOpen : counts.blackList.check guesser t = true := by
            rw [same, atTime]
            exact isOpen
          exact (guesses guesser).guess counted counting rfl stillOpen
        next other => exact (guesses ip).keep counted counting (not_resets_of_increases rfl)
    | none =>
        obtain ⟨request, called, asked⟩ := serverStep_touches md5 ran history.now
        obtain ⟨after, counting, now, black⟩ := goes request
        refine ⟨after, black.trans called.symm, now.le, counted.step counting, fun ip => ?_⟩
        simp only [reduceCtorEq, if_false]
        split
        next => exact .none after ip
        next untouched =>
          refine (guesses ip).keep counted counting fun resets => ?_
          rcases asked with asked | ⟨-, adds, removes⟩
          · rw [asked] at untouched
            exact untouched (decide_eq_true resets)
          · simp [Resets, adds, removes] at resets

end

def wrongLogin (seconds : Int) : Event :=
  .message 1 (.login {
    account := "", password := "guess", role := Role.manager, secretKey := "0123456789abcdef" })
    { now := seconds * 1000 }

def guessing : List Event :=
  .connect 1 .management "10.0.0.7" ::
    [0, 10, 20, 30, 40, 50, 3700, 3710, 3720, 3730, 3740, 3750].map wrongLogin

theorem guessing_times :
    ((Transition.run (guessStep noDigest) { server := initialServer twoAccounts, now := 0 }
      guessing).map fun history => history.guesses "10.0.0.7") =
      some [3740, 3730, 3720, 3710, 3700, 40, 30, 20, 10, 0] := by decide +kernel

end EasyViewer
