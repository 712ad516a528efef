import EasyViewer.Visits

/-!
Rooms and the guards that own them. A login that collides with a room of its own id
takes that room away from the guard it belongs to, and the management server leaves the
rooms of a guard behind. Exactly the runs without either keep owners and rooms agreed.
-/

namespace EasyViewer

def GuardOf (state : ServerState) (kind : Kind) (userId : UserId) (con : ConnectionId) : Prop :=
  state.cleaned con = false ∧ ∃ connection user,
    state.connections con = some connection ∧ connection.user = some user ∧ user.id = userId ∧
      Role.has connection.role Role.flagGuard = true ∧ Role.has connection.role kind.flag = true

def ownerOf (rooms : Rooms) (kind : Kind) (userId : UserId) : Option ConnectionId :=
  (rooms kind userId).map Room.owner

/-- The room registered under an id is owned by the guard of that id, and there is one for
every guard. -/
def RoomsAgree (state : ServerState) : Prop :=
  ∀ kind userId con, ownerOf state.rooms kind userId = some con ↔ GuardOf state kind userId con

section

variable {md5 : String → String}

theorem ownerOf_apply (change : RoomChange) (rooms : Rooms) (kind : Kind) (userId : UserId) :
    ownerOf (change.apply rooms) kind userId =
      match change with
      | .create owner id role =>
          if userId = id ∧ Role.has role kind.flag then some owner else ownerOf rooms kind userId
      | .rollBack id => if userId = id then none else ownerOf rooms kind userId
      | .close id role =>
          if userId = id ∧ Role.has role kind.flag then none else ownerOf rooms kind userId
      | _ => ownerOf rooms kind userId := by
  cases change with
  | keep => rfl
  | create owner id role =>
      simp only [ownerOf, RoomChange.apply, createdRooms]
      split <;> rfl
  | rollBack id =>
      simp only [ownerOf, RoomChange.apply]
      split <;> rfl
  | close id role =>
      simp only [ownerOf, RoomChange.apply]
      split <;> rfl
  | letIn other id viewer =>
      simp only [ownerOf, RoomChange.apply]
      by_cases here : kind = other ∧ userId = id
      · obtain ⟨rfl, rfl⟩ := here
        rw [SharingRoomManager.set_self]
        cases rooms kind userId <;> rfl
      · rw [SharingRoomManager.set_other here]
  | leave other id who =>
      simp only [ownerOf, RoomChange.apply]
      by_cases here : kind = other ∧ userId = id
      · obtain ⟨rfl, rfl⟩ := here
        rw [SharingRoomManager.set_self]
        cases rooms kind userId <;> rfl
      · rw [SharingRoomManager.set_other here]

theorem ownerOf_messageChange {state : ServerState} {con : ConnectionId}
    {connection : Connection} {message : ClientMessage} {ambient : Ambient} {kind : Kind}
    {userId : UserId} (notLogin : ∀ request, message ≠ .login request) :
    ownerOf ((messageChange md5 state con connection message ambient).apply state.rooms)
      kind userId = ownerOf state.rooms kind userId := by
  cases message with
  | login request => exact absurd rfl (notLogin request)
  | responseVisit2 answered response =>
      simp only [messageChange]
      split
      · rfl
      · rw [ownerOf_apply]
  | _ => rfl

/-- A login that gets as far as the rooms gets them. -/
def LoginKeepsApart (md5 : String → String) (state : ServerState) (event : Event) : Prop :=
  ∀ con connection request ambient info,
    event = .message con (.login request) ambient → state.connections con = some connection →
      loginAttempt md5 state connection request ambient = some info →
      loginGranted state info request.role = true

/-- The management server cleans up no guard that has rooms. -/
def CleansNoGuard (state : ServerState) (event : Event) : Prop :=
  ∀ con connection user (kind : Kind),
    event = .clean con → state.connections con = some connection →
      connection.server = .management → connection.user = some user →
      Role.has connection.role Role.flagGuard = true → Role.has connection.role kind.flag = false

/-- No login asks for a kind of room that already stands under its id, and no guard's connection
to the management server is cleaned up. -/
def KeepsRooms (md5 : String → String) (state : ServerState) (event : Event) : Prop :=
  LoginKeepsApart md5 state event ∧ CleansNoGuard state event

theorem guardOf_step {state next : ServerState} {event : Event}
    (stepped : serverStep md5 state event = some next) (kind : Kind) (userId : UserId)
    (con : ConnectionId) :
    GuardOf next kind userId con ↔
      (GuardOf state kind userId con ∧ event ≠ .clean con) ∨
        ∃ connection request ambient info,
          event = .message con (.login request) ambient ∧
            state.connections con = some connection ∧ state.cleaned con = false ∧
            loginAttempt md5 state connection request ambient = some info ∧
            loginGranted state info request.role = true ∧ info.id = userId ∧
            Role.has request.role Role.flagGuard = true ∧
            Role.has request.role kind.flag = true := by
  have dirty : next.cleaned con = false ↔ state.cleaned con = false ∧ event ≠ .clean con := by
    rw [← Bool.not_eq_true, serverStep_cleaned stepped, not_or, Bool.not_eq_true]
  have notLogin : next.connections con = state.connections con →
      (GuardOf next kind userId con ↔ GuardOf state kind userId con ∧ event ≠ .clean con) := by
    intro same
    simp only [GuardOf]
    rw [dirty, same]
    tauto
  rcases serverStep_connections stepped con with
    same | ⟨isConnect, fresh, result⟩ | ⟨isLogin, known, attempt, granted, result⟩ |
    ⟨isVisit, known, _, attempt, result⟩
  · rw [notLogin same]
    refine ⟨Or.inl, ?_⟩
    rintro (old | ⟨connection, request, ambient, info, isLogin, known, clean, attempt, granted, new⟩)
    · exact old
    · have now := (serverStep_granted stepped isLogin known attempt granted).1
      rw [same, known, Option.some.injEq] at now
      have unbound : connection.user = some info := by
        rw [now]
        rfl
      simp [loginAttempt, unbound] at attempt
  · constructor
    · rintro ⟨_, connection, user, registered, bound, _⟩
      rw [result, Option.some.injEq] at registered
      rw [← registered] at bound
      contradiction
    · rintro (⟨⟨_, connection, user, registered, _⟩, _⟩ | ⟨_, _, _, _, isLogin, _⟩)
      · rw [fresh] at registered
        contradiction
      · rw [isConnect] at isLogin
        contradiction
  · have clean := (serverStep_granted stepped isLogin known attempt granted).2
    constructor
    · rintro ⟨_, connection, user, registered, bound, isUser, isGuard, flagged⟩
      rw [result, Option.some.injEq] at registered
      subst registered
      cases bound
      exact Or.inr ⟨_, _, _, _, isLogin, known, clean, attempt, granted, isUser, isGuard, flagged⟩
    · rintro (⟨⟨_, connection, user, registered, bound, _⟩, _⟩ |
        ⟨connection, request, ambient, info, sameLogin, sameKnown, _, sameAttempt, _, isUser,
          isGuard, flagged⟩)
      · rw [known, Option.some.injEq] at registered
        subst registered
        simp [loginAttempt, bound] at attempt
      · rw [isLogin] at sameLogin
        cases sameLogin
        rw [known, Option.some.injEq] at sameKnown
        subst sameKnown
        rw [attempt, Option.some.injEq] at sameAttempt
        subst sameAttempt
        have now : next.cleaned con = false := dirty.mpr ⟨clean, by rw [isLogin]; simp⟩
        exact ⟨now, _, _, result, rfl, isUser, isGuard, flagged⟩
  · simp only [visitAttempt] at attempt
    simp only [Bool.and_eq_true, decide_eq_true_eq] at attempt
    obtain ⟨⟨⟨⟨role, _⟩, _⟩, _⟩, _⟩ := attempt
    constructor
    · rintro ⟨_, connection, user, registered, _, _, isGuard, _⟩
      rw [result, Option.some.injEq] at registered
      rw [← registered] at isGuard
      simp only [role, Kind.visitorRole_not_guard] at isGuard
      contradiction
    · rintro (⟨⟨_, connection, user, registered, _, _, isGuard, _⟩, _⟩ |
        ⟨_, _, _, _, isLogin, _⟩)
      · rw [known, Option.some.injEq] at registered
        rw [← registered, role, Kind.visitorRole_not_guard] at isGuard
        contradiction
      · rw [isVisit] at isLogin
        cases isLogin

theorem RoomsAgree.of_same {state next : ServerState} (agree : RoomsAgree state)
    (owners : ∀ kind userId, ownerOf next.rooms kind userId = ownerOf state.rooms kind userId)
    (guards : ∀ kind userId con, GuardOf next kind userId con ↔ GuardOf state kind userId con) :
    RoomsAgree next := by
  intro kind userId con
  rw [owners, guards]
  exact agree kind userId con

theorem roomsAgree_other {state next : ServerState} {event : Event} (agree : RoomsAgree state)
    (stepped : serverStep md5 state event = some next) (runs : next.fault = none)
    (notLogin : ∀ con request ambient, event ≠ .message con (.login request) ambient)
    (notClean : ∀ con, event ≠ .clean con) : RoomsAgree next ∧ KeepsRooms md5 state event := by
  constructor
  · apply agree.of_same
    · intro kind userId
      rw [serverStep_rooms stepped runs]
      cases event with
      | message con message ambient =>
          simp only [roomChange]
          cases state.connections con with
          | none => rfl
          | some connection =>
              exact ownerOf_messageChange
                (fun request isLogin => notLogin con request ambient (by rw [isLogin]))
      | clean con => exact absurd rfl (notClean con)
      | _ => rfl
    · intro kind userId con
      rw [guardOf_step stepped]
      constructor
      · rintro (old | ⟨_, request, ambient, _, isLogin, _⟩)
        · exact old.1
        · exact absurd isLogin (notLogin con request ambient)
      · exact fun old => Or.inl ⟨old, notClean con⟩
  · constructor
    · intro con _ request ambient _ isLogin
      exact absurd isLogin (notLogin con request ambient)
    · intro con _ _ _ isClean
      exact absurd isClean (notClean con)

theorem keepsRooms_login {state : ServerState} {con : ConnectionId} {connection : Connection}
    {request : LoginRequest} {ambient : Ambient}
    (registered : state.connections con = some connection) :
    KeepsRooms md5 state (.message con (.login request) ambient) ↔
      ∀ info, loginAttempt md5 state connection request ambient = some info →
        loginGranted state info request.role = true := by
  constructor
  · intro keeps info attempt
    exact keeps.1 con connection request ambient info rfl registered attempt
  · intro granted
    refine ⟨?_, fun _ _ _ _ isClean => by contradiction⟩
    intro who other asked around info isLogin found attempt
    cases isLogin
    rw [registered, Option.some.injEq] at found
    subst found
    exact granted info attempt

theorem guardOf_login {state next : ServerState} {con : ConnectionId} {connection : Connection}
    {request : LoginRequest} {ambient : Ambient}
    (stepped : serverStep md5 state (.message con (.login request) ambient) = some next)
    (registered : state.connections con = some connection) (clean : state.cleaned con = false)
    (kind : Kind) (userId : UserId) (who : ConnectionId) :
    GuardOf next kind userId who ↔
      GuardOf state kind userId who ∨ who = con ∧ ∃ info,
        loginAttempt md5 state connection request ambient = some info ∧
        loginGranted state info request.role = true ∧ info.id = userId ∧
        Role.has request.role Role.flagGuard = true ∧
        Role.has request.role kind.flag = true := by
  rw [guardOf_step stepped]
  constructor
  · rintro (⟨old, _⟩ | ⟨other, _, _, info, isLogin, found, _, attempt, new⟩)
    · exact Or.inl old
    · cases isLogin
      rw [registered, Option.some.injEq] at found
      subst found
      exact Or.inr ⟨rfl, info, attempt, new⟩
  · rintro (old | ⟨rfl, info, attempt, new⟩)
    · exact Or.inl ⟨old, by simp⟩
    · exact Or.inr ⟨connection, request, ambient, info, rfl, registered, clean, attempt, new⟩

/-- The roll-back of a refused login takes a room away from a guard that stays bound. -/
theorem not_roomsAgree_rolledBack {state next : ServerState} {info : Account} {role : UInt32}
    (agree : RoomsAgree state) (refused : loginGranted state info role = false)
    (guards : ∀ kind userId who, GuardOf state kind userId who → GuardOf next kind userId who)
    (rooms : ∀ kind, ownerOf next.rooms kind info.id = none) : ¬ RoomsAgree next := by
  intro agreeNext
  have both : Role.has role Role.flagGuard = true ∧
      registeredAny state.rooms info.id role Kind.all = true := by
    simpa [loginGranted] using refused
  obtain ⟨kind, _, taken⟩ := List.any_eq_true.mp both.2
  rw [Bool.and_eq_true] at taken
  obtain ⟨room, stands⟩ := Option.isSome_iff_exists.mp taken.2
  have owned : ownerOf state.rooms kind info.id = some room.owner := by
    rw [ownerOf, stands, Option.map_some]
  have still := (agreeNext kind info.id room.owner).mpr
    (guards kind info.id room.owner ((agree kind info.id room.owner).mp owned))
  rw [rooms] at still
  contradiction

theorem loginGranted_free {state : ServerState} {info : Account} {role : UInt32} {kind : Kind}
    (granted : loginGranted state info role = true)
    (isGuard : Role.has role Role.flagGuard = true) (flagged : Role.has role kind.flag = true) :
    ownerOf state.rooms kind info.id = none := by
  have none : registeredAny state.rooms info.id role Kind.all = false := by
    simpa [loginGranted, isGuard] using granted
  rw [registeredAny, List.any_eq_false] at none
  have absent := none kind (Kind.mem_all kind)
  simp only [flagged, Bool.true_and, Bool.not_eq_true, Option.isSome_eq_false_iff,
    Option.isNone_iff_eq_none] at absent
  rw [ownerOf, absent]
  rfl

theorem roomsAgree_login {state next : ServerState} {con : ConnectionId} {request : LoginRequest}
    {ambient : Ambient} (agree : RoomsAgree state)
    (stepped : serverStep md5 state (.message con (.login request) ambient) = some next)
    (runs : next.fault = none) :
    RoomsAgree next ↔ KeepsRooms md5 state (.message con (.login request) ambient) := by
  obtain ⟨_, happened⟩ := serverStep_some.mp stepped
  obtain ⟨connection, known, clean, _, _⟩ := eventStep_message happened
  have registered : state.connections con = some connection := known
  have rooms := serverStep_rooms stepped runs
  simp only [roomChange, registered, messageChange, loginChange] at rooms
  have guards := guardOf_login stepped registered clean
  rw [keepsRooms_login registered]
  cases attempt : loginAttempt md5 state connection request ambient with
  | none =>
      rw [attempt] at rooms
      refine ⟨fun _ info none => absurd none (by simp), fun _ => ?_⟩
      apply agree.of_same
      · intro kind userId
        rw [rooms]
        rfl
      · intro kind userId who
        rw [guards]
        constructor
        · rintro (old | ⟨_, info, some, _⟩)
          · exact old
          · rw [attempt] at some
            contradiction
        · exact Or.inl
  | some info =>
      rw [attempt] at rooms
      cases granted : loginGranted state info request.role with
      | false =>
          simp only [granted, Bool.false_eq_true, not_false_eq_true, if_true] at rooms
          refine ⟨fun agreeNext => ?_, fun all => by rw [all info rfl] at granted; contradiction⟩
          refine absurd agreeNext (not_roomsAgree_rolledBack agree granted ?_ ?_)
          · exact fun kind userId who old => (guards kind userId who).mpr (Or.inl old)
          · intro kind
            rw [rooms, ownerOf_apply]
            simp
      | true =>
          simp only [granted, not_true_eq_false, if_false] at rooms
          refine ⟨fun _ other same => by rw [← Option.some.inj same]; exact granted, fun _ => ?_⟩
          intro kind userId who
          rw [guards]
          by_cases isGuard : Role.has request.role Role.flagGuard = true
          · rw [if_pos isGuard] at rooms
            rw [rooms, ownerOf_apply]
            by_cases here : userId = info.id ∧ Role.has request.role kind.flag = true
            · obtain ⟨rfl, flagged⟩ := here
              have free := loginGranted_free granted isGuard flagged
              dsimp only
              rw [if_pos ⟨rfl, flagged⟩, Option.some.injEq]
              constructor
              · intro isCon
                exact Or.inr ⟨isCon.symm, info, attempt, granted, rfl, isGuard, flagged⟩
              · rintro (old | ⟨isCon, _⟩)
                · rw [← agree kind info.id who, free] at old
                  contradiction
                · exact isCon.symm
            · simp only [here, if_false]
              rw [agree kind userId who]
              constructor
              · exact Or.inl
              · rintro (old | ⟨_, other, same, _, isUser, _, flagged⟩)
                · exact old
                · rw [attempt, Option.some.injEq] at same
                  subst same
                  exact absurd ⟨isUser.symm, flagged⟩ here
          · rw [if_neg isGuard] at rooms
            rw [rooms, ownerOf_apply]
            simp only
            rw [agree kind userId who]
            constructor
            · exact Or.inl
            · rintro (old | ⟨_, _, _, _, _, guards, _⟩)
              · exact old
              · exact absurd guards isGuard

theorem guardOf_clean {state next : ServerState} {con : ConnectionId}
    (stepped : serverStep md5 state (.clean con) = some next) (kind : Kind) (userId : UserId)
    (who : ConnectionId) :
    GuardOf next kind userId who ↔ GuardOf state kind userId who ∧ who ≠ con := by
  rw [guardOf_step stepped]
  constructor
  · rintro (⟨old, other⟩ | ⟨_, _, _, _, isLogin, _⟩)
    · exact ⟨old, fun same => other (by rw [same])⟩
    · contradiction
  · rintro ⟨old, other⟩
    refine Or.inl ⟨old, fun same => other ?_⟩
    cases same
    rfl

theorem guardOf_registered {state : ServerState} {con : ConnectionId} {connection : Connection}
    (registered : state.connections con = some connection) (dirty : state.cleaned con = false)
    (kind : Kind) (userId : UserId) :
    GuardOf state kind userId con ↔
      ∃ user, connection.user = some user ∧ user.id = userId ∧
        Role.has connection.role Role.flagGuard = true ∧
        Role.has connection.role kind.flag = true := by
  constructor
  · rintro ⟨_, other, user, found, guards⟩
    rw [registered, Option.some.injEq] at found
    subst found
    exact ⟨user, guards⟩
  · rintro ⟨user, guards⟩
    exact ⟨dirty, connection, user, registered, guards⟩

theorem keepsRooms_clean {state : ServerState} {con : ConnectionId} {connection : Connection}
    (registered : state.connections con = some connection) (dirty : state.cleaned con = false) :
    KeepsRooms md5 state (.clean con) ↔
      (connection.server = .management → ∀ kind userId, ¬ GuardOf state kind userId con) := by
  have isGuard := guardOf_registered registered dirty
  constructor
  · intro keeps management kind userId guardHere
    obtain ⟨user, bound, _, guards, flagged⟩ := (isGuard kind userId).mp guardHere
    have unflagged := keeps.2 con connection user kind rfl registered management bound guards
    rw [unflagged] at flagged
    contradiction
  · intro none
    refine ⟨fun _ _ _ _ _ isLogin => by contradiction, ?_⟩
    intro who other user kind isClean found management bound guards
    cases isClean
    rw [registered, Option.some.injEq] at found
    subst found
    by_contra flagged
    rw [Bool.not_eq_false] at flagged
    exact none management kind user.id ((isGuard kind user.id).mpr
      ⟨user, bound, rfl, guards, flagged⟩)

theorem roomsAgree_clean {state next : ServerState} {con : ConnectionId} (agree : RoomsAgree state)
    (stepped : serverStep md5 state (.clean con) = some next) (runs : next.fault = none) :
    RoomsAgree next ↔ KeepsRooms md5 state (.clean con) := by
  obtain ⟨_, happened⟩ := serverStep_some.mp stepped
  obtain ⟨connection, known, clean, _⟩ := eventStep_clean happened
  have registered : state.connections con = some connection := known
  have rooms := serverStep_rooms stepped runs
  simp only [roomChange, registered] at rooms
  have guards := guardOf_clean stepped
  have isGuard := guardOf_registered registered clean
  -- Only a guard's clean-up on the application server changes owners.
  have unchanged : (∀ kind userId, ¬ GuardOf state kind userId con) →
      (∀ kind userId, ownerOf next.rooms kind userId = ownerOf state.rooms kind userId) →
      RoomsAgree next := by
    intro none owners
    apply agree.of_same owners
    intro kind userId who
    rw [guards]
    exact ⟨fun both => both.1, fun old => ⟨old, fun same => none kind userId (same ▸ old)⟩⟩
  rw [keepsRooms_clean registered clean]
  cases server : connection.server with
  | management =>
      have owners : ∀ kind userId, ownerOf next.rooms kind userId =
          ownerOf state.rooms kind userId := by
        intro kind userId
        rw [rooms]
        simp only [cleanChange, server]
        rfl
      constructor
      · intro agreeNext _ kind userId guardHere
        have owned := (agree kind userId con).mpr guardHere
        rw [← owners, agreeNext kind userId con, guards] at owned
        exact owned.2 rfl
      · intro none
        exact unchanged (none rfl) owners
  | application =>
      refine ⟨fun _ isManagement => by contradiction, fun _ => ?_⟩
      cases bound : connection.user with
      | none =>
          apply unchanged
          · intro kind userId guardHere
            obtain ⟨user, isUser, _⟩ := (isGuard kind userId).mp guardHere
            rw [bound] at isUser
            contradiction
          · intro kind userId
            rw [rooms]
            simp only [cleanChange, server, bound]
            rfl
      | some user =>
          by_cases guardRole : Role.has connection.role Role.flagGuard = true
          · simp only [cleanChange, server, bound, guardRole, if_true] at rooms
            intro kind userId who
            rw [rooms, ownerOf_apply, guards]
            by_cases here : userId = user.id ∧ Role.has connection.role kind.flag = true
            · dsimp only
              rw [if_pos here]
              constructor
              · intro impossible
                contradiction
              · rintro ⟨old, other⟩
                have mine : GuardOf state kind userId con :=
                  (isGuard kind userId).mpr ⟨user, bound, here.1.symm, guardRole, here.2⟩
                have owned := (agree kind userId who).mpr old
                rw [(agree kind userId con).mpr mine, Option.some.injEq] at owned
                exact absurd owned.symm other
            · simp only [here, if_false]
              rw [agree kind userId who]
              refine ⟨fun old => ⟨old, fun same => here ?_⟩, fun both => both.1⟩
              rw [same] at old
              obtain ⟨found, isUser, isId, _, flagged⟩ := (isGuard kind userId).mp old
              rw [bound, Option.some.injEq] at isUser
              subst isUser
              exact ⟨isId.symm, flagged⟩
          · apply unchanged
            · intro kind userId guardHere
              obtain ⟨_, _, _, isRole, _⟩ := (isGuard kind userId).mp guardHere
              exact guardRole isRole
            · intro kind userId
              rw [rooms, ownerOf_apply]
              simp only [cleanChange, server, bound, guardRole]
              by_cases visitorRole : Role.has connection.role Role.flagVisitor = true
              · simp only [visitorRole, if_true]
                cases visitedKind connection.role <;> rfl
              · simp only [visitorRole]
                rfl

namespace ServerState

theorem checked_fault {state : ServerState} {con : ConnectionId} {connection : Connection}
    {roleChecked : Bool} {body : Account → ServerState}
    (passed : ∀ user, roleChecked = true → connection.user = some user →
      (body user).fault = state.fault) :
    (state.checked con connection roleChecked body).fault = state.fault := by
  refine @checked_elim (fun after => after.fault = state.fault) _ _ _ _ _ ?_ ?_
  · rfl
  · exact passed

theorem parse_fault {state body : ServerState} {con : ConnectionId} {connection : Connection}
    {ambient : Ambient} (readable : ambient.readable = true → body.fault = state.fault) :
    (state.parse con connection ambient body).fault = state.fault := by
  refine @parse_elim (fun after => after.fault = state.fault) _ _ _ _ _ ?_ ?_
  · rfl
  · exact readable

end ServerState

theorem removeRooms_fault (userId : UserId) (kinds : List Kind) (state : ServerState) :
    (removeRooms userId kinds state).fault = state.fault := by
  induction kinds generalizing state with
  | nil => rfl
  | cons kind kinds ih => rw [removeRooms, ih, removeRoom_fault]

theorem requestLogin_fault (state : ServerState) (con : ConnectionId) (connection : Connection)
    (request : LoginRequest) (ambient : Ambient) :
    (requestLogin md5 state con connection request ambient).fault = state.fault := by
  unfold requestLogin
  split
  · rfl
  · split
    · rfl
    · apply ServerState.parse_fault
      intro _
      split
      · simp only
        split <;> rfl
      · simp only [completeLogin]
        split
        · split
          · rfl
          · exact removeRooms_fault _ _ _
        · rfl

theorem keepsRooms_of_fault {state next : ServerState} {event : Event}
    (stepped : serverStep md5 state event = some next) (faulty : next.fault ≠ none) :
    KeepsRooms md5 state event := by
  obtain ⟨running, happened⟩ := serverStep_some.mp stepped
  constructor
  · rintro con _ request ambient _ rfl _ _
    obtain ⟨connection, _, _, _, rfl⟩ := eventStep_message happened
    refine absurd ?_ faulty
    simp only [handle]
    rw [requestLogin_fault]
    exact running
  · rintro con connection user kind rfl known management _ _
    obtain ⟨other, registered, _, rfl⟩ := eventStep_clean happened
    have same : connection = other := Option.some.inj (known.symm.trans registered)
    subst same
    refine absurd ?_ faulty
    simp only [cleanUserConnection, management]
    exact running

theorem roomsAgree_step {state next : ServerState} {event : Event} (agree : RoomsAgree state)
    (stepped : serverStep md5 state event = some next) (runs : next.fault = none) :
    RoomsAgree next ↔ KeepsRooms md5 state event := by
  by_cases isLogin : ∃ con request ambient, event = .message con (.login request) ambient
  · obtain ⟨con, request, ambient, rfl⟩ := isLogin
    exact roomsAgree_login agree stepped runs
  · by_cases isClean : ∃ con, event = .clean con
    · obtain ⟨con, rfl⟩ := isClean
      exact roomsAgree_clean agree stepped runs
    · have other := roomsAgree_other agree stepped runs
        (fun con request ambient same => isLogin ⟨con, request, ambient, same⟩)
        (fun con same => isClean ⟨con, same⟩)
      exact ⟨fun _ => other.2, fun _ => other.1⟩

/-- The events whose handling asserts that a room stands: a clean-up, what a guard publishes,
and a guard's answer to a visit that asked for this guard. -/
def AssertsRoom (state : ServerState) (event : Event) : Prop :=
  match event with
  | .clean _ => True
  | .message _ (.publishScreenFrame _) _ => True
  | .message _ (.publishCursorPosition _) _ => True
  | .message _ (.publishTerminalOutput _) _ => True
  | .message con (.responseVisit2 kind response) ambient =>
      ∀ connection user task, state.connections con = some connection →
        connection.user = some user →
        answeredTask kind state connection response ambient = some task →
        task.partnerUserId = user.id
  | _ => False

def AssertionsPass (md5 : String → String) (state : ServerState) (event : Event) : Prop :=
  AssertsRoom state event →
    ∀ next, serverStep md5 state event = some next → next.fault ≠ some .assertion

theorem RoomsAgree.room {state : ServerState} {kind : Kind} {con : ConnectionId}
    {connection : Connection} {user : Account} (agree : RoomsAgree state)
    (known : state.connections con = some connection) (clean : state.cleaned con = false)
    (bound : connection.user = some user)
    (guardRole : Role.has connection.role Role.flagGuard = true)
    (flagged : Role.has connection.role kind.flag = true) :
    ∃ room, state.rooms kind user.id = some room ∧ room.owner = con := by
  have owned := (agree kind user.id con).mpr
    ⟨clean, connection, user, known, bound, rfl, guardRole, flagged⟩
  exact Option.map_eq_some_iff.mp owned

theorem relayToViewers_fault (state : ServerState) (source : ConnectionId) (kind : Kind)
    (packet : Packet) (viewers : List Viewer) :
    (state.relayToViewers source kind packet viewers).fault = state.fault := by
  induction viewers generalizing state with
  | nil => rfl
  | cons viewer viewers ih =>
      rw [ServerState.relayToViewers, ih]
      rfl

theorem cleanUserConnection_runs {state : ServerState} {con : ConnectionId}
    {connection : Connection} (agree : RoomsAgree state)
    (known : state.connections con = some connection) (clean : state.cleaned con = false)
    {middle : ServerState} (rooms : middle.rooms = state.rooms) (running : middle.fault = none) :
    (cleanUserConnection middle con connection).fault = none := by
  have passes : (cleanRooms middle con connection).fault = none := by
    simp only [cleanRooms]
    split
    · exact running
    · rename_i user bound
      split
      · rename_i guardRole
        have distinct : Kind.all.Nodup := by decide
        refine (closeRooms_rooms _ _ _ distinct running).1.mpr ?_
        intro kind _ flagged
        obtain ⟨room, stands, _⟩ := agree.room known clean bound guardRole flagged
        rw [rooms, stands, Option.isSome_some]
      · split
        · split
          · exact running
          · rw [leaveRoom_fault]
            exact running
        · exact running
  unfold cleanUserConnection
  split
  · exact running
  · simp only
    split
    · exact passes
    · exact passes

section

variable {state : ServerState} {con : ConnectionId} {connection : Connection}

theorem publishToScreen_runs (agree : RoomsAgree state)
    (known : state.connections con = some connection) (clean : state.cleaned con = false)
    (tag : UInt32) (data : List UInt8) :
    (publishToScreen tag state con connection data).fault = state.fault := by
  apply ServerState.checked_fault
  intro user role bound
  obtain ⟨isGuard, flagged⟩ := @Role.guard_of_includes _ .screen role
  obtain ⟨room, stands, _⟩ := agree.room known clean bound isGuard flagged
  rw [stands]
  exact relayToViewers_fault _ _ _ _ _

theorem publishTerminalOutput_runs (agree : RoomsAgree state)
    (known : state.connections con = some connection) (clean : state.cleaned con = false)
    (publish : TerminalMessage) (ambient : Ambient) :
    (publishTerminalOutput state con connection publish ambient).fault = state.fault := by
  apply ServerState.checked_fault
  intro user role bound
  obtain ⟨isGuard, flagged⟩ := @Role.guard_of_includes _ .terminal role
  obtain ⟨room, stands, _⟩ := agree.room known clean bound isGuard flagged
  apply ServerState.parse_fault
  intro _
  rw [stands]
  simp only
  split
  · rfl
  · exact relayToViewers_fault _ _ _ _ _

theorem handleResponse_runs (task : VisitTask) {asked : ServerState} (response : VisitResponse)
    (ambient : Ambient) {room : Room}
    (stands : asked.rooms task.kind task.partnerUserId = some room) :
    (task.handleResponse asked con response ambient).fault = asked.fault := by
  unfold VisitTask.handleResponse
  rw [stands]
  split
  · simp only
    split
    · split <;> rfl
    · simp only [VisitTask.closeRefused]
      split <;> rfl
  · simp only
    split <;> rfl

theorem responseVisit2_runs (agree : RoomsAgree state)
    (known : state.connections con = some connection) (clean : state.cleaned con = false)
    {kind : Kind} {response : VisitResponse} {ambient : Ambient}
    (own : ∀ user task, connection.user = some user →
      answeredTask kind state connection response ambient = some task →
      task.partnerUserId = user.id) :
    (responseVisit2 kind state con connection response ambient).fault = state.fault := by
  cases answered : answeredTask kind state connection response ambient with
  | none =>
      apply ServerState.checked_fault
      intro user role bound
      apply ServerState.parse_fault
      intro readable
      have missed : (state.findTask response.taskId).filter (fun task =>
          task.certificate = response.certificate && !task.destroyed) = none := by
        simp only [answeredTask] at answered
        rwa [if_pos ⟨role, by rw [bound]; rfl, readable⟩] at answered
      rw [destroy_of_outstanding, missed]
      simp only
      split <;> rfl
  | some task =>
      obtain ⟨role, ⟨user, bound⟩, _⟩ := answeredTask_some answered
      obtain ⟨isGuard, flagged⟩ := Role.guard_of_includes role
      obtain ⟨room, stands, _⟩ := agree.room known clean bound isGuard flagged
      rw [responseVisit2_answered answered]
      split
      · rename_i isKind
        rw [← own user task bound answered, ← isKind] at stands
        exact handleResponse_runs task response ambient stands
      · rfl

end

theorem RoomsAgree.assertions {state : ServerState} {event : Event} (agree : RoomsAgree state) :
    AssertionsPass md5 state event := by
  intro asserts next stepped faulty
  obtain ⟨running, happened⟩ := serverStep_some.mp stepped
  have agreeNow : RoomsAgree { state with outputs := [] } := agree
  have runs : next.fault = none := by
    cases event with
    | clean con =>
        obtain ⟨connection, known, clean, rfl⟩ := eventStep_clean happened
        exact cleanUserConnection_runs agreeNow known clean rfl running
    | message con message ambient =>
        obtain ⟨connection, known, clean, _, rfl⟩ := eventStep_message happened
        cases message with
        | publishScreenFrame data =>
            exact (publishToScreen_runs agreeNow known clean _ data).trans running
        | publishCursorPosition data =>
            exact (publishToScreen_runs agreeNow known clean _ data).trans running
        | publishTerminalOutput publish =>
            exact (publishTerminalOutput_runs agreeNow known clean publish ambient).trans running
        | responseVisit2 kind response =>
            refine (responseVisit2_runs agreeNow known clean ?_).trans running
            intro user task bound answered
            exact asserts connection user task known bound answered
        | _ => contradiction
    | _ => contradiction
  rw [runs] at faulty
  contradiction

/-- Owners and guards agree throughout a run, and with them every assertion of a room passes, in
exactly those runs in which no login asks for a kind of room that stands under its id and the
management server cleans up no guard that has rooms. -/
theorem rooms_agree_iff (md5 : String → String) (accountManager : AccountManager)
    (events : List Event) :
    (Transition.Throughout (serverStep md5) (fun state => state.fault = none → RoomsAgree state)
        (initialServer accountManager) events ∧
      Transition.Happening (serverStep md5) (AssertionsPass md5) (initialServer accountManager)
        events) ↔
      Transition.Happening (serverStep md5) (KeepsRooms md5) (initialServer accountManager)
        events := by
  have exact : Transition.Throughout (serverStep md5)
        (fun state => state.fault = none → RoomsAgree state) (initialServer accountManager)
        events ↔
      Transition.Happening (serverStep md5) (KeepsRooms md5) (initialServer accountManager)
        events := by
    refine Transition.Throughout.iff_happening _ (fun _ => True) ?_ trivial ?_
    · intro state event next _ agree stepped
      have running := (serverStep_some.mp stepped).1
      refine ⟨trivial, ?_⟩
      by_cases runs : next.fault = none
      · rw [← roomsAgree_step (agree running) stepped runs]
        exact ⟨fun holds => holds runs, fun holds _ => holds⟩
      · exact ⟨fun _ => keepsRooms_of_fault stepped runs, fun _ still => absurd still runs⟩
    · intro _ kind userId con
      constructor
      · intro owned
        contradiction
      · rintro ⟨_, connection, _, known, _⟩
        contradiction
  rw [← exact]
  refine ⟨fun both => both.1, fun throughout => ⟨throughout, ?_⟩⟩
  apply throughout.happening
  intro state event next agree stepped
  exact (agree (serverStep_some.mp stepped).1).assertions

end

def secondLogin : List Event := [
  .connect 1 .application "10.0.0.1",
  .connect 2 .application "10.0.0.2",
  .message 1 (.login {
    account := "guard", password := "", role := Role.screenGuard, secretKey := "k" }) {},
  .message 2 (.login {
    account := "guard", password := "", role := Role.screenGuard, secretKey := "k" }) {}]

theorem secondLogin_takes_the_room :
    ∃ state, Transition.run (serverStep noDigest) (initialServer twoAccounts) secondLogin =
      some state ∧ state.fault = none ∧ ¬ RoomsAgree state := by
  refine ⟨_, rfl, rfl, fun agree => ?_⟩
  have owned := (agree .screen 1 1).mpr ⟨rfl, _, _, rfl, rfl, rfl, rfl, rfl⟩
  contradiction

end EasyViewer
