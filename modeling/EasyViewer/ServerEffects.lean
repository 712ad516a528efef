import EasyViewer.RoomHistory
import EasyViewer.ServerStep

/-!
What a step of the servers can do, said once: to the rooms, to the connections and to
the tasks. Everything proved about runs of the servers rests on these lemmas and does
not open the handlers again.
-/

namespace EasyViewer

namespace ServerState

theorem checked_elim {P : ServerState → Prop} {state : ServerState} {con : ConnectionId}
    {connection : Connection} {roleChecked : Bool} {body : Account → ServerState}
    (refused : P (state.disconnect con))
    (passed : ∀ user, roleChecked = true → connection.user = some user → P (body user)) :
    P (state.checked con connection roleChecked body) := by
  simp only [checked]
  split
  · exact refused
  · rename_i allowed
    split
    · exact refused
    · rename_i user bound
      exact passed user (by simpa using allowed) bound

theorem parse_elim {P : ServerState → Prop} {state body : ServerState} {con : ConnectionId}
    {connection : Connection} {ambient : Ambient}
    (garbled : P ({ state with blackList :=
      state.blackList.increaseIPAddress connection.peerIP ambient.seconds }.disconnect con))
    (readable : ambient.readable = true → P body) :
    P (state.parse con connection ambient body) := by
  simp only [parse]
  split
  · rename_i isReadable
    exact readable isReadable
  · exact garbled

theorem checked_passed {state : ServerState} {con : ConnectionId} {connection : Connection}
    {roleChecked : Bool} {body : Account → ServerState} {user : Account}
    (allowed : roleChecked = true) (bound : connection.user = some user) :
    state.checked con connection roleChecked body = body user := by
  simp [checked, allowed, bound]

theorem parse_readable {state body : ServerState} {con : ConnectionId} {connection : Connection}
    {ambient : Ambient} (readable : ambient.readable = true) :
    state.parse con connection ambient body = body := if_pos readable

end ServerState

/-- Everything but the rooms and what is told, counted and suffered stays. -/
structure RoomFrame (state next : ServerState) : Prop where
  connections : next.connections = state.connections
  connected : next.connected = state.connected
  cleaned : next.cleaned = state.cleaned
  tasks : next.tasks = state.tasks
  nextTaskId : next.nextTaskId = state.nextTaskId
  accountManager : next.accountManager = state.accountManager

theorem RoomFrame.trans {state middle next : ServerState} (first : RoomFrame state middle)
    (second : RoomFrame middle next) : RoomFrame state next where
  connections := second.connections.trans first.connections
  connected := second.connected.trans first.connected
  cleaned := second.cleaned.trans first.cleaned
  tasks := second.tasks.trans first.tasks
  nextTaskId := second.nextTaskId.trans first.nextTaskId
  accountManager := second.accountManager.trans first.accountManager

structure ServerFrame (state next : ServerState) : Prop extends RoomFrame state next where
  rooms : next.rooms = state.rooms

namespace ServerFrame

theorem noted (state : ServerState) (disconnecting : ConnectionId → Bool) (blackList : BlackList)
    (outputs : List Output) (fault : Option Fault) :
    ServerFrame state { state with
      disconnecting := disconnecting, blackList := blackList, outputs := outputs, fault := fault } :=
  ⟨⟨rfl, rfl, rfl, rfl, rfl, rfl⟩, rfl⟩

theorem refl (state : ServerState) : ServerFrame state state := noted state _ _ _ _

theorem trans {state middle next : ServerState} (first : ServerFrame state middle)
    (second : ServerFrame middle next) : ServerFrame state next where
  toRoomFrame := first.toRoomFrame.trans second.toRoomFrame
  rooms := second.rooms.trans first.rooms

theorem put (state : ServerState) (output : Output) : ServerFrame state (state.put output) :=
  noted state _ _ _ _

theorem disconnect (state : ServerState) (con : ConnectionId) :
    ServerFrame state (state.disconnect con) := noted state _ _ _ _

theorem crash (state : ServerState) (fault : Fault) : ServerFrame state (state.crash fault) :=
  noted state _ _ _ _

theorem relayToViewers (state : ServerState) (source : ConnectionId) (kind : Kind)
    (packet : Packet) (viewers : List Viewer) :
    ServerFrame state (state.relayToViewers source kind packet viewers) := by
  induction viewers generalizing state with
  | nil => exact refl state
  | cons viewer viewers ih => exact (put state _).trans (ih _)

theorem checked {state : ServerState} {con : ConnectionId} {connection : Connection}
    {roleChecked : Bool} {body : Account → ServerState}
    (passed : ∀ user, connection.user = some user → ServerFrame state (body user)) :
    ServerFrame state (state.checked con connection roleChecked body) :=
  ServerState.checked_elim (disconnect state con) fun user _ bound => passed user bound

theorem parse {state body : ServerState} {con : ConnectionId} {connection : Connection}
    {ambient : Ambient} (readable : ServerFrame state body) :
    ServerFrame state (state.parse con connection ambient body) := by
  apply ServerState.parse_elim
  · exact noted state _ _ _ _
  · exact fun _ => readable

end ServerFrame

section

variable (md5 : String → String)

def loginAttempt (state : ServerState) (connection : Connection) (request : LoginRequest)
    (ambient : Ambient) : Option Account :=
  if ¬ state.blackList.checkIPAddress connection.peerIP ambient.seconds ∨ connection.user.isSome ∨
      ¬ ambient.readable then none
  else (checkLogin md5 state request ambient).toOption

theorem requestLogin_refused {state : ServerState} {con : ConnectionId} {connection : Connection}
    {request : LoginRequest} {ambient : Ambient}
    (refused : loginAttempt md5 state connection request ambient = none) :
    ServerFrame state (requestLogin md5 state con connection request ambient) := by
  simp only [loginAttempt] at refused
  unfold requestLogin
  split
  · exact ServerFrame.put _ _
  · split
    · exact ServerFrame.put _ _
    · apply ServerState.parse_elim
      · exact ServerFrame.noted state _ _ _ _
      · intro readable
        rename_i allowed unbound
        rw [if_neg (by simp_all)] at refused
        split
        · simp only
          split <;> exact ServerFrame.noted state _ _ _ _
        · rename_i info passed
          rw [passed] at refused
          contradiction

theorem requestLogin_attempt {state : ServerState} (con : ConnectionId) {connection : Connection}
    {request : LoginRequest} {ambient : Ambient} {info : Account}
    (attempt : loginAttempt md5 state connection request ambient = some info) :
    requestLogin md5 state con connection request ambient =
      completeLogin state con connection info request.role request.secretKey := by
  simp only [loginAttempt] at attempt
  split at attempt
  · contradiction
  · rename_i allowed
    push Not at allowed
    obtain ⟨address, unbound, readable⟩ := allowed
    simp only [requestLogin]
    rw [if_neg (by simpa using address), if_neg (by simpa using unbound),
      ServerState.parse_readable readable]
    cases checks : checkLogin md5 state request ambient with
    | error refusal =>
        rw [checks] at attempt
        contradiction
    | ok passed =>
        rw [checks] at attempt
        cases attempt
        rfl

end

def registeredAny (rooms : Rooms) (userId : UserId) (role : UInt32) (kinds : List Kind) : Bool :=
  kinds.any fun kind => Role.has role kind.flag && (rooms kind userId).isSome

theorem registeredAny_congr {rooms made : Rooms} {userId : UserId} {role : UInt32}
    {kinds : List Kind} (same : ∀ kind ∈ kinds, made kind userId = rooms kind userId) :
    registeredAny made userId role kinds = registeredAny rooms userId role kinds := by
  induction kinds with
  | nil => rfl
  | cons first kinds ih =>
      have rest := ih fun kind listed => same kind (List.mem_cons_of_mem _ listed)
      simp only [registeredAny, List.any_cons] at rest ⊢
      rw [same first (List.mem_cons_self ..), rest]

theorem createRooms_rooms (role : UInt32) (userId : UserId) (owner : ConnectionId)
    (kinds : List Kind) (distinct : kinds.Nodup) (rooms : Rooms) :
    (createRooms role userId owner kinds rooms).1 = !registeredAny rooms userId role kinds ∧
      ∀ kind id, (createRooms role userId owner kinds rooms).2 kind id =
          (if id = userId ∧ kind ∈ kinds ∧ Role.has role kind.flag = true then
            some { owner := owner, callbacks := kind = .screen }
          else rooms kind id) ∨
        id = userId ∧ registeredAny rooms userId role kinds = true := by
  induction kinds generalizing rooms with
  | nil =>
      refine ⟨rfl, fun kind id => Or.inl ?_⟩
      simp [createRooms]
  | cons first kinds ih =>
      obtain ⟨fresh, distinct⟩ := List.nodup_cons.mp distinct
      by_cases flagged : Role.has role first.flag = true
      · cases taken : rooms first userId with
        | some room =>
            have refused : createRooms role userId owner (first :: kinds) rooms =
                (false, rooms) := by
              simp [createRooms, flagged, SharingRoomManager.createRoom, taken]
            have registered : registeredAny rooms userId role (first :: kinds) = true := by
              simp [registeredAny, flagged, taken]
            rw [refused, registered]
            refine ⟨rfl, fun kind id => ?_⟩
            by_cases here : id = userId
            · exact Or.inr ⟨here, rfl⟩
            · exact Or.inl (by simp [here])
        | none =>
            let made := SharingRoomManager.set rooms first userId
              (some { owner := owner, callbacks := first = .screen })
            have created : createRooms role userId owner (first :: kinds) rooms =
                createRooms role userId owner kinds made := by
              simp [createRooms, flagged, SharingRoomManager.createRoom, taken, made]
            have untouched : ∀ kind ∈ kinds, made kind userId = rooms kind userId := by
              intro kind listed
              apply SharingRoomManager.set_other
              rintro ⟨rfl, _⟩
              exact fresh listed
            have registered : registeredAny rooms userId role (first :: kinds) =
                registeredAny made userId role kinds := by
              rw [registeredAny_congr untouched]
              simp only [registeredAny, List.any_cons, taken, Option.isSome_none, Bool.and_false,
                Bool.false_or]
            rw [created, registered]
            obtain ⟨answer, result⟩ := ih distinct made
            refine ⟨answer, fun kind id => ?_⟩
            rcases result kind id with after | collided
            · left
              rw [after]
              by_cases here : id = userId ∧ kind = first
              · obtain ⟨rfl, rfl⟩ := here
                simp [fresh, flagged, made]
              · have same : made kind id = rooms kind id :=
                  SharingRoomManager.set_other fun both => here ⟨both.2, both.1⟩
                rw [same]
                by_cases isUser : id = userId
                · have apart : kind ≠ first := fun isFirst => here ⟨isUser, isFirst⟩
                  simp [isUser, apart]
                · simp [isUser]
            · exact Or.inr collided
      · have skipped : createRooms role userId owner (first :: kinds) rooms =
            createRooms role userId owner kinds rooms := by
          simp [createRooms, flagged]
        have registered : registeredAny rooms userId role (first :: kinds) =
            registeredAny rooms userId role kinds := by
          simp [registeredAny, flagged]
        rw [skipped, registered]
        obtain ⟨answer, result⟩ := ih distinct rooms
        refine ⟨answer, fun kind id => ?_⟩
        rcases result kind id with after | collided
        · left
          rw [after]
          by_cases isFirst : kind = first
          · subst isFirst
            simp [flagged]
          · simp [isFirst]
        · exact Or.inr collided

theorem removeRoom_rooms (state : ServerState) (kind : Kind) (userId : UserId) :
    (state.removeRoom kind userId).rooms =
      SharingRoomManager.removeRoom state.rooms kind userId := by
  simp only [ServerState.removeRoom]
  split
  · rename_i absent
    funext other id
    simp only [SharingRoomManager.removeRoom, SharingRoomManager.set]
    split
    · rename_i same
      rw [same.1, same.2, absent]
    · rfl
  · rfl

theorem removeRoom_frame (state : ServerState) (kind : Kind) (userId : UserId) :
    RoomFrame state (state.removeRoom kind userId) := by
  simp only [ServerState.removeRoom]
  split <;> constructor <;> rfl

theorem removeRooms_frame (userId : UserId) (kinds : List Kind) (state : ServerState) :
    RoomFrame state (removeRooms userId kinds state) := by
  induction kinds generalizing state with
  | nil => exact (ServerFrame.refl state).toRoomFrame
  | cons kind kinds ih => exact (removeRoom_frame state kind userId).trans (ih _)

theorem removeRooms_rooms (userId : UserId) (kinds : List Kind) (state : ServerState) (kind : Kind)
    (id : UserId) :
    (removeRooms userId kinds state).rooms kind id =
      if id = userId ∧ kind ∈ kinds then none else state.rooms kind id := by
  induction kinds generalizing state with
  | nil => simp [removeRooms]
  | cons first kinds ih =>
      rw [removeRooms, ih, removeRoom_rooms]
      by_cases here : kind = first ∧ id = userId
      · obtain ⟨rfl, rfl⟩ := here
        simp [SharingRoomManager.removeRoom]
      · rw [SharingRoomManager.removeRoom, SharingRoomManager.set_other here]
        by_cases isUser : id = userId
        · have apart : kind ≠ first := fun isFirst => here ⟨isFirst, isUser⟩
          simp [isUser, apart]
        · simp [isUser]

theorem closeRooms_frame (role : UInt32) (userId : UserId) (kinds : List Kind)
    (state : ServerState) : RoomFrame state (closeRooms role userId kinds state) := by
  induction kinds generalizing state with
  | nil => exact (ServerFrame.refl state).toRoomFrame
  | cons kind kinds ih =>
      simp only [closeRooms]
      split
      · split
        · exact (ServerFrame.crash state .assertion).toRoomFrame
        · exact (removeRoom_frame state kind userId).trans (ih _)
      · exact ih state

@[simp] theorem removeRoom_fault (state : ServerState) (kind : Kind) (userId : UserId) :
    (state.removeRoom kind userId).fault = state.fault := by
  simp only [ServerState.removeRoom]
  split <;> rfl

/-- The clean-up of a guard's rooms runs through if they are all there, and fails its assertion
otherwise. -/
theorem closeRooms_rooms (role : UInt32) (userId : UserId) (kinds : List Kind)
    (distinct : kinds.Nodup) {state : ServerState} (running : state.fault = none) :
    ((closeRooms role userId kinds state).fault = none ↔
        ∀ kind ∈ kinds, Role.has role kind.flag = true → (state.rooms kind userId).isSome) ∧
      ((closeRooms role userId kinds state).fault = none → ∀ kind id,
        (closeRooms role userId kinds state).rooms kind id =
          if id = userId ∧ kind ∈ kinds ∧ Role.has role kind.flag = true then none
          else state.rooms kind id) := by
  induction kinds generalizing state with
  | nil => simp [closeRooms, running]
  | cons first kinds ih =>
      obtain ⟨fresh, distinct⟩ := List.nodup_cons.mp distinct
      by_cases flagged : Role.has role first.flag = true
      · cases there : state.rooms first userId with
        | none =>
            have failed : closeRooms role userId (first :: kinds) state =
                state.crash .assertion := by
              simp [closeRooms, flagged, there]
            rw [failed]
            constructor
            · simp [ServerState.crash, flagged, there]
            · intro runs
              simp [ServerState.crash] at runs
        | some room =>
            have goesOn : closeRooms role userId (first :: kinds) state =
                closeRooms role userId kinds (state.removeRoom first userId) := by
              simp [closeRooms, flagged, there]
            have others : ∀ kind ∈ kinds,
                (state.removeRoom first userId).rooms kind userId = state.rooms kind userId := by
              intro kind listed
              rw [removeRoom_rooms]
              apply SharingRoomManager.set_other
              rintro ⟨rfl, _⟩
              exact fresh listed
            have stillRunning : (state.removeRoom first userId).fault = none := by
              rw [removeRoom_fault]
              exact running
            obtain ⟨runs, result⟩ := ih distinct stillRunning
            rw [goesOn]
            constructor
            · rw [runs]
              constructor
              · intro all kind listed isFlagged
                rcases List.mem_cons.mp listed with rfl | later
                · simp [there]
                · rw [← others kind later]
                  exact all kind later isFlagged
              · intro all kind later isFlagged
                rw [others kind later]
                exact all kind (List.mem_cons_of_mem _ later) isFlagged
            · intro running kind id
              rw [result running, removeRoom_rooms]
              by_cases here : kind = first ∧ id = userId
              · obtain ⟨rfl, rfl⟩ := here
                simp [flagged, SharingRoomManager.removeRoom]
              · rw [SharingRoomManager.removeRoom, SharingRoomManager.set_other here]
                by_cases isUser : id = userId
                · have apart : kind ≠ first := fun isFirst => here ⟨isFirst, isUser⟩
                  simp [isUser, apart]
                · simp [isUser]
      · have skipped : closeRooms role userId (first :: kinds) state =
            closeRooms role userId kinds state := by
          simp [closeRooms, flagged]
        obtain ⟨runs, result⟩ := ih distinct running
        rw [skipped]
        constructor
        · rw [runs]
          constructor
          · intro all kind listed isFlagged
            rcases List.mem_cons.mp listed with rfl | later
            · exact absurd isFlagged flagged
            · exact all kind later isFlagged
          · intro all kind later isFlagged
            exact all kind (List.mem_cons_of_mem _ later) isFlagged
        · intro running kind id
          rw [result running]
          by_cases isFirst : kind = first
          · subst isFirst
            simp [flagged]
          · simp [isFirst]

def answeredTask (kind : Kind) (state : ServerState) (connection : Connection)
    (response : VisitResponse) (ambient : Ambient) : Option VisitTask :=
  if Role.includes connection.role kind.guardRole ∧ connection.user.isSome ∧ ambient.readable then
    (state.findTask response.taskId).filter fun task =>
      task.certificate = response.certificate && !task.destroyed
  else none

def VisitTask.letsIn (task : VisitTask) (state : ServerState) (response : VisitResponse) : Bool :=
  response.errCode = Err.noError &&
    match state.rooms task.kind task.partnerUserId with
    | none => false
    | some room => (room.addViewer task.kind state.userIdOf task.src response.terminalId).1

def admission (kind : Kind) (state : ServerState) (connection : Connection)
    (response : VisitResponse) (ambient : Ambient) : Option VisitTask :=
  (answeredTask kind state connection response ambient).filter fun task =>
    task.kind = kind && task.letsIn state response

theorem destroy_of_outstanding {state : ServerState} {taskId : Nat} {certificate : UInt32} :
    state.destroy taskId certificate =
      match (state.findTask taskId).filter fun task =>
        task.certificate = certificate && !task.destroyed with
      | none => (none, state)
      | some task =>
          (some task, state.setTask taskId fun task => { task with destroyed := true }) := by
  simp only [ServerState.destroy]
  split
  · rename_i missing
    rw [missing]
    rfl
  · rename_i task found
    rw [found, Option.filter_some]
    by_cases outstanding : task.certificate = certificate ∧ ¬ task.destroyed = true
    · rw [if_pos outstanding, if_pos (by simpa using outstanding)]
    · rw [if_neg outstanding, if_neg (by simpa using outstanding)]

namespace VisitTask

theorem feedback_frame (task : VisitTask) (state : ServerState) (errCode : Int)
    (errString : String) (response : Option VisitResponse) :
    ServerFrame state (task.feedback state errCode errString response) := ServerFrame.put _ _

theorem closeRefused_frame (task : VisitTask) (state : ServerState) (con : ConnectionId)
    (response : VisitResponse) : ServerFrame state (task.closeRefused state con response) := by
  simp only [closeRefused]
  split
  · exact ServerFrame.put _ _
  · exact ServerFrame.refl state

theorem handleResponse_frame (task : VisitTask) (state : ServerState) (con : ConnectionId)
    (response : VisitResponse) (ambient : Ambient) :
    RoomFrame state (task.handleResponse state con response ambient) := by
  simp only [handleResponse]
  split
  · split
    · exact (ServerFrame.crash state .assertion).toRoomFrame
    · split
      · split <;> constructor <;> rfl
      · exact ((closeRefused_frame task state con response).trans
          (feedback_frame task _ _ _ _)).toRoomFrame
  · split <;> constructor <;> rfl

theorem letsIn_room {task : VisitTask} {state : ServerState} {response : VisitResponse}
    (lets : task.letsIn state response = true) :
    response.errCode = Err.noError ∧
      ∃ room, state.rooms task.kind task.partnerUserId = some room ∧
        room.addViewer task.kind state.userIdOf task.src response.terminalId =
          (true, { room with
            viewers := room.viewers ++ [task.kind.viewer task.src response.terminalId] }) := by
  simp only [letsIn] at lets
  rw [Bool.and_eq_true, decide_eq_true_eq] at lets
  obtain ⟨accepted, taken⟩ := lets
  refine ⟨accepted, ?_⟩
  split at taken
  · contradiction
  · rename_i room registered
    refine ⟨room, registered, ?_⟩
    rcases room.addViewer_cases task.kind state.userIdOf task.src response.terminalId with
      added | refused
    · exact added
    · rw [refused] at taken
      contradiction

theorem handleResponse_rooms (task : VisitTask) (state : ServerState) (con : ConnectionId)
    (response : VisitResponse) (ambient : Ambient) :
    (task.handleResponse state con response ambient).rooms =
      if task.letsIn state response then
        (RoomChange.letIn task.kind task.partnerUserId
          (task.kind.viewer task.src response.terminalId)).apply state.rooms
      else state.rooms := by
  by_cases lets : task.letsIn state response = true
  · obtain ⟨accepted, room, registered, added⟩ := letsIn_room lets
    have admitted : (RoomChange.letIn task.kind task.partnerUserId
        (task.kind.viewer task.src response.terminalId)).apply state.rooms =
          SharingRoomManager.set state.rooms task.kind task.partnerUserId (some { room with
            viewers := room.viewers ++ [task.kind.viewer task.src response.terminalId] }) := by
      simp [RoomChange.apply, registered]
    rw [if_pos lets, admitted]
    simp only [handleResponse]
    rw [if_pos accepted, registered]
    simp only [added]
    split <;> rfl
  · rw [if_neg lets]
    unfold handleResponse
    split
    · rename_i accepted
      split
      · rfl
      · rename_i room registered
        split
        · rename_i after added
          exact absurd (by simp [letsIn, accepted, registered, added]) lets
        · exact ((closeRefused_frame task state con response).trans
            (feedback_frame task _ _ _ _)).rooms
    · simp only
      split <;> rfl

end VisitTask

section

variable {kind : Kind} {state : ServerState} {con : ConnectionId} {connection : Connection}
  {response : VisitResponse} {ambient : Ambient}

theorem answeredTask_some {task : VisitTask}
    (answered : answeredTask kind state connection response ambient = some task) :
    Role.includes connection.role kind.guardRole = true ∧ (∃ user, connection.user = some user) ∧
      ambient.readable = true ∧ state.findTask response.taskId = some task ∧
      task.certificate = response.certificate ∧ task.destroyed = false ∧
      state.destroy response.taskId response.certificate =
        (some task, state.setTask response.taskId fun task => { task with destroyed := true }) := by
  simp only [answeredTask] at answered
  split at answered
  · rename_i checks
    obtain ⟨role, bound, readable⟩ := checks
    obtain ⟨found, outstanding⟩ := Option.filter_eq_some_iff.mp answered
    rw [Bool.and_eq_true, decide_eq_true_eq, Bool.not_eq_true'] at outstanding
    refine ⟨role, Option.isSome_iff_exists.mp bound, readable, found, outstanding.1,
      outstanding.2, ?_⟩
    rw [destroy_of_outstanding, answered]
  · contradiction

theorem responseVisit2_missed
    (missed : answeredTask kind state connection response ambient = none) :
    ServerFrame state (responseVisit2 kind state con connection response ambient) := by
  simp only [responseVisit2]
  apply ServerState.checked_elim
  · exact ServerFrame.disconnect state con
  · intro user role bound
    apply ServerState.parse_elim
    · exact ServerFrame.noted state _ _ _ _
    · intro readable
      simp only [answeredTask] at missed
      rw [if_pos ⟨role, by rw [bound]; rfl, readable⟩] at missed
      rw [destroy_of_outstanding, missed]
      simp only
      split
      · exact ServerFrame.put _ _
      · exact ServerFrame.refl state

theorem responseVisit2_answered {task : VisitTask}
    (answered : answeredTask kind state connection response ambient = some task) :
    responseVisit2 kind state con connection response ambient =
      if task.kind = kind then
        task.handleResponse
          (state.setTask response.taskId fun task => { task with destroyed := true }) con response
          ambient
      else state.setTask response.taskId fun task => { task with destroyed := true } := by
  obtain ⟨role, ⟨user, bound⟩, readable, _, _, _, destroyed⟩ := answeredTask_some answered
  simp only [responseVisit2]
  rw [ServerState.checked_passed role bound, ServerState.parse_readable readable, destroyed]

theorem responseVisit2_frame {task : VisitTask}
    (answered : answeredTask kind state connection response ambient = some task) :
    RoomFrame (state.setTask response.taskId fun task => { task with destroyed := true })
      (responseVisit2 kind state con connection response ambient) := by
  rw [responseVisit2_answered answered]
  split
  · exact task.handleResponse_frame _ con response ambient
  · exact (ServerFrame.refl _).toRoomFrame

theorem responseVisit2_rooms :
    (responseVisit2 kind state con connection response ambient).rooms =
      match admission kind state connection response ambient with
      | none => state.rooms
      | some task =>
          (RoomChange.letIn task.kind task.partnerUserId
            (task.kind.viewer task.src response.terminalId)).apply state.rooms := by
  simp only [admission]
  cases answered : answeredTask kind state connection response ambient with
  | none => exact (responseVisit2_missed answered).rooms
  | some task =>
      rw [responseVisit2_answered answered]
      have alike : task.letsIn
          (state.setTask response.taskId fun task => { task with destroyed := true }) response =
            task.letsIn state response := rfl
      by_cases same : task.kind = kind
      · rw [if_pos same, VisitTask.handleResponse_rooms, alike, Option.filter_some]
        by_cases lets : task.letsIn state response = true
        · simp only [lets, same, decide_true, Bool.and_self, if_true]
          rfl
        · simp only [lets, Bool.and_false, if_false, Bool.false_eq_true]
          rfl
      · simp only [same, Option.filter_some, decide_false, Bool.false_and, Bool.false_eq_true,
          if_false]
        rfl

end

def cleanChange (con : ConnectionId) (connection : Connection) : RoomChange :=
  match connection.server, connection.user with
  | .application, some user =>
      if Role.has connection.role Role.flagGuard then .close user.id connection.role
      else if Role.has connection.role Role.flagVisitor then
        match visitedKind connection.role with
        | none => .keep
        | some kind => .leave kind connection.targetUserId con
      else .keep
  | _, _ => .keep

theorem leaveRoom_frame (state : ServerState) (con : ConnectionId) (kind : Kind)
    (userId : UserId) : RoomFrame state (leaveRoom state con kind userId) := by
  unfold leaveRoom
  split
  · exact (ServerFrame.refl state).toRoomFrame
  · split
    · simp only
      split <;> constructor <;> rfl
    · simp only
      split <;> constructor <;> rfl

theorem leaveRoom_rooms (state : ServerState) (con : ConnectionId) (kind : Kind)
    (userId : UserId) :
    (leaveRoom state con kind userId).rooms =
      (RoomChange.leave kind userId con).apply state.rooms := by
  unfold leaveRoom
  split
  · rename_i absent
    funext other id
    by_cases here : other = kind ∧ id = userId
    · obtain ⟨rfl, rfl⟩ := here
      simp [RoomChange.apply, absent]
    · exact (SharingRoomManager.set_other here).symm
  · rename_i room registered
    have left : (RoomChange.leave kind userId con).apply state.rooms =
        SharingRoomManager.set state.rooms kind userId (some (room.erase con)) := by
      simp [RoomChange.apply, registered]
    rw [left]
    split
    · simp only
      split <;> rfl
    · simp only
      split <;> rfl

theorem leaveRoom_fault (state : ServerState) (con : ConnectionId) (kind : Kind)
    (userId : UserId) : (leaveRoom state con kind userId).fault = state.fault := by
  unfold leaveRoom
  split
  · rfl
  · split
    · simp only
      split <;> rfl
    · simp only
      split <;> rfl

theorem cleanUserConnection_frame (state : ServerState) (con : ConnectionId)
    (connection : Connection) : RoomFrame state (cleanUserConnection state con connection) := by
  have rooms : RoomFrame state (cleanRooms state con connection) := by
    simp only [cleanRooms]
    split
    · exact (ServerFrame.refl state).toRoomFrame
    · split
      · exact closeRooms_frame _ _ _ state
      · split
        · split
          · exact (ServerFrame.refl state).toRoomFrame
          · exact leaveRoom_frame state con _ _
        · exact (ServerFrame.refl state).toRoomFrame
  unfold cleanUserConnection
  split
  · exact (ServerFrame.disconnect state con).toRoomFrame
  · simp only
    split
    · exact rooms
    · exact rooms.trans (ServerFrame.disconnect _ con).toRoomFrame

theorem cleanUserConnection_rooms {state : ServerState} {con : ConnectionId}
    {connection : Connection} (running : state.fault = none)
    (runs : (cleanUserConnection state con connection).fault = none) :
    (cleanUserConnection state con connection).rooms =
      (cleanChange con connection).apply state.rooms := by
  simp only [cleanUserConnection] at runs ⊢
  simp only [cleanChange]
  cases server : connection.server with
  | management => rfl
  | application =>
      have after : (cleanRooms state con connection).fault = none := by
        simp only [server] at runs
        split at runs
        · rename_i faulty
          rw [runs] at faulty
          contradiction
        · exact runs
      simp only [after, Option.isSome_none, Bool.false_eq_true, if_false]
      simp only [cleanRooms] at after ⊢
      cases bound : connection.user with
      | none => rfl
      | some user =>
          simp only [bound] at after ⊢
          by_cases isGuard : Role.has connection.role Role.flagGuard = true
          · rw [if_pos isGuard] at after ⊢
            rw [if_pos isGuard]
            funext kind id
            have closed := (closeRooms_rooms connection.role user.id Kind.all (by decide)
              running).2 after kind id
            simp only [Kind.mem_all, true_and] at closed
            exact closed
          · rw [if_neg isGuard, if_neg isGuard]
            by_cases isVisitor : Role.has connection.role Role.flagVisitor = true
            · rw [if_pos isVisitor, if_pos isVisitor]
              cases visitedKind connection.role with
              | none => rfl
              | some kind => exact leaveRoom_rooms state con kind _
            · rw [if_neg isVisitor, if_neg isVisitor]
              rfl

section

variable (md5 : String → String)

def loginGranted (state : ServerState) (info : Account) (role : UInt32) : Bool :=
  !(Role.has role Role.flagGuard && registeredAny state.rooms info.id role Kind.all)

def loginChange (state : ServerState) (con : ConnectionId) (connection : Connection)
    (request : LoginRequest) (ambient : Ambient) : RoomChange :=
  match loginAttempt md5 state connection request ambient with
  | none => .keep
  | some info =>
      if ¬ loginGranted state info request.role then .rollBack info.id
      else if Role.has request.role Role.flagGuard then .create con info.id request.role
      else .keep

def boundConnection (connection : Connection) (info : Account) (role : UInt32)
    (secretKey : String) : Connection :=
  { connection with
    user := some info
    role := role
    secondCryptology := some secretKey
    L := if role = Role.manager then 1024 * 1024 * 1024 else connection.L }

theorem completeLogin_granted {state : ServerState} (con : ConnectionId) (connection : Connection)
    {info : Account} {role : UInt32} (secretKey : String)
    (granted : loginGranted state info role = true) :
    ∃ rooms, rooms = (if Role.has role Role.flagGuard = true then
        createdRooms con info.id role state.rooms else state.rooms) ∧
      completeLogin state con connection info role secretKey =
        respondLogin (bindUser { state with rooms := rooms } con connection info role secretKey)
          con Err.noError "" info := by
  simp only [completeLogin]
  by_cases isGuard : Role.has role Role.flagGuard = true
  · have free : registeredAny state.rooms info.id role Kind.all = false := by
      simpa [loginGranted, isGuard] using granted
    obtain ⟨answer, result⟩ := createRooms_rooms role info.id con Kind.all (by decide) state.rooms
    rw [free] at answer
    have created : createRooms role info.id con Kind.all state.rooms =
        (true, createdRooms con info.id role state.rooms) := by
      refine Prod.ext answer ?_
      funext kind id
      rcases result kind id with after | ⟨_, collided⟩
      · simp only [Kind.mem_all, true_and] at after
        exact after
      · rw [free] at collided
        contradiction
    rw [if_pos isGuard, if_pos isGuard, created]
    exact ⟨_, rfl, rfl⟩
  · rw [if_neg isGuard, if_neg isGuard]
    exact ⟨_, rfl, rfl⟩

theorem completeLogin_rolledBack {state : ServerState} (con : ConnectionId)
    (connection : Connection) {info : Account} {role : UInt32} (secretKey : String)
    (refused : loginGranted state info role = false) :
    RoomFrame state (completeLogin state con connection info role secretKey) ∧
      (completeLogin state con connection info role secretKey).rooms =
        (RoomChange.rollBack info.id).apply state.rooms := by
  have both : Role.has role Role.flagGuard = true ∧
      registeredAny state.rooms info.id role Kind.all = true := by
    simpa [loginGranted] using refused
  obtain ⟨isGuard, registered⟩ := both
  obtain ⟨answer, result⟩ := createRooms_rooms role info.id con Kind.all (by decide) state.rooms
  rw [registered] at answer
  have failed : ∃ rooms, createRooms role info.id con Kind.all state.rooms = (false, rooms) :=
    ⟨_, Prod.ext answer rfl⟩
  obtain ⟨rooms, failed⟩ := failed
  simp only [completeLogin]
  rw [if_pos isGuard, failed]
  constructor
  · have frame := removeRooms_frame info.id Kind.all { state with rooms := rooms }
    have sent := (frame.trans (ServerFrame.put _ (.send con {
      tag := Tag.responseLogin
      body := .login Err.unknow (formatError Err.unknow) info.id })).toRoomFrame)
    exact ⟨sent.connections, sent.connected, sent.cleaned, sent.tasks, sent.nextTaskId,
      sent.accountManager⟩
  · funext kind id
    have removed := removeRooms_rooms info.id Kind.all { state with rooms := rooms } kind id
    simp only [Kind.mem_all, and_true] at removed
    refine removed.trans ?_
    by_cases here : id = info.id
    · simp [RoomChange.apply, here]
    · simp only [RoomChange.apply, here, if_false]
      rcases result kind id with after | ⟨same, _⟩
      · rw [failed] at after
        simpa [here] using after
      · exact absurd same here

/-- The handlers that touch neither rooms nor bindings, tasks or accounts. -/
def ClientMessage.Quiet : ClientMessage → Prop
  | .login _ | .requestVisit _ _ | .responseVisit2 _ _ | .management _ => False
  | _ => True

theorem relay_frame (state : ServerState) (con : ConnectionId) (kind : Kind) (userId : UserId)
    {packet : Packet} {absent : ServerState} (missing : ServerFrame state absent) :
    ServerFrame state (match state.rooms kind userId with
      | none => absent
      | some room => state.relayToGuard con room kind packet) := by
  split
  · exact missing
  · exact ServerFrame.put _ _

theorem usualRequest_frame (handler : UsualRequest) (state : ServerState) (con : ConnectionId)
    (connection : Connection) (request : FileMessage) (ambient : Ambient) :
    ServerFrame state (handler.handle state con connection request ambient) := by
  refine ServerFrame.checked fun user _ => ServerFrame.parse ?_
  simp only
  split
  · split
    · exact ServerFrame.disconnect state con
    · exact relay_frame state con _ _ (ServerFrame.crash state _)
  · split
    · exact ServerFrame.crash state _
    · split
      · exact ServerFrame.put _ _
      · exact ServerFrame.relayToViewers state con _ _ _

theorem usualResponse_frame (handler : UsualResponseHandler) (state : ServerState)
    (con : ConnectionId) (connection : Connection) (response : FileMessage) (ambient : Ambient) :
    ServerFrame state (handler.handle state con connection response ambient) := by
  refine ServerFrame.checked fun user _ => ServerFrame.parse ?_
  simp only
  split
  · split
    · exact ServerFrame.disconnect state con
    · exact relay_frame state con _ _ (ServerFrame.refl state)
  · split
    · exact ServerFrame.refl state
    · split
      · exact ServerFrame.refl state
      · exact ServerFrame.relayToViewers state con _ _ _

theorem setClipboardText_frame (state : ServerState) (con : ConnectionId) (connection : Connection)
    (data : List UInt8) : ServerFrame state (setClipboardText state con connection data) := by
  refine ServerFrame.checked fun user _ => ?_
  simp only
  split
  · split
    · exact ServerFrame.disconnect state con
    · exact relay_frame state con _ _ (ServerFrame.refl state)
  · split
    · split
      · exact ServerFrame.refl state
      · exact ServerFrame.relayToViewers state con _ _ _
    · exact ServerFrame.disconnect state con

theorem publishToScreen_frame (tag : UInt32) (state : ServerState) (con : ConnectionId)
    (connection : Connection) (data : List UInt8) :
    ServerFrame state (publishToScreen tag state con connection data) := by
  refine ServerFrame.checked fun user _ => ?_
  split
  · exact ServerFrame.crash state _
  · exact ServerFrame.relayToViewers state con _ _ _

theorem terminalInput_frame (tag : UInt32) (state : ServerState) (con : ConnectionId)
    (connection : Connection) (request : TerminalMessage) (ambient : Ambient) :
    ServerFrame state (terminalInput tag state con connection request ambient) := by
  refine ServerFrame.checked fun user _ => ServerFrame.parse ?_
  split
  · exact ServerFrame.disconnect state con
  · simp only
    split
    · exact ServerFrame.disconnect state con
    · exact ServerFrame.put _ _

theorem publishTerminalOutput_frame (state : ServerState) (con : ConnectionId)
    (connection : Connection) (publish : TerminalMessage) (ambient : Ambient) :
    ServerFrame state (publishTerminalOutput state con connection publish ambient) := by
  refine ServerFrame.checked fun user _ => ServerFrame.parse ?_
  split
  · exact ServerFrame.crash state _
  · split
    · exact ServerFrame.refl state
    · exact ServerFrame.relayToViewers state con _ _ _

theorem kickoutTerminalVisitor_frame (state : ServerState) (con : ConnectionId)
    (connection : Connection) (terminalId : String) (ambient : Ambient) :
    ServerFrame state (kickoutTerminalVisitor state con connection terminalId ambient) := by
  refine ServerFrame.checked fun user _ => ServerFrame.parse ?_
  split
  · exact ServerFrame.disconnect state con
  · split
    · exact ServerFrame.refl state
    · exact ServerFrame.disconnect state _

theorem requestEcho_frame (state : ServerState) (con : ConnectionId) (connection : Connection)
    (seq time : Int) (ambient : Ambient) :
    ServerFrame state (requestEcho state con connection seq time ambient) := by
  refine ServerFrame.checked fun user _ => ServerFrame.parse ?_
  exact ServerFrame.put _ _

theorem handle_quiet {state : ServerState} {con : ConnectionId} {connection : Connection}
    {message : ClientMessage} {ambient : Ambient} (quiet : message.Quiet) :
    ServerFrame state (handle md5 state con connection message ambient) := by
  cases message with
  | login _ => contradiction
  | requestVisit _ _ => contradiction
  | responseVisit2 _ _ => contradiction
  | management _ => contradiction
  | echo seq time => exact requestEcho_frame state con connection seq time ambient
  | fileRequest which request => exact usualRequest_frame _ state con connection request ambient
  | fileResponse which response => exact usualResponse_frame _ state con connection response ambient
  | screenControl control data =>
      exact ServerFrame.checked fun user _ => relay_frame state con _ _ (ServerFrame.refl state)
  | setClipboardText data => exact setClipboardText_frame state con connection data
  | publishScreenFrame data => exact publishToScreen_frame _ state con connection data
  | publishCursorPosition data => exact publishToScreen_frame _ state con connection data
  | writeCommand request => exact terminalInput_frame _ state con connection request ambient
  | resizeTerminal request => exact terminalInput_frame _ state con connection request ambient
  | publishTerminalOutput publish =>
      exact publishTerminalOutput_frame state con connection publish ambient
  | kickoutTerminalVisitor terminalId =>
      exact kickoutTerminalVisitor_frame state con connection terminalId ambient

def visitAttempt (kind : Kind) (state : ServerState) (connection : Connection)
    (request : VisitRequest) (ambient : Ambient) : Bool :=
  connection.role = kind.visitorRole && ambient.readable && connection.targetUserId = 0 &&
    request.userId ≠ 0 && connection.user.any fun user =>
      state.blackList.checkAccount user.id ambient.seconds && request.userId ≠ user.id

theorem requestVisit_attempt {kind : Kind} {state : ServerState} {con : ConnectionId}
    {connection : Connection} {request : VisitRequest} {ambient : Ambient}
    (attempt : visitAttempt kind state connection request ambient = true) :
    requestVisit kind state con connection request ambient =
      (state.setConnection con { connection with targetUserId := request.userId }).dispatch
        (visitTask kind state con request ambient) := by
  simp only [visitAttempt] at attempt
  simp only [Bool.and_eq_true, decide_eq_true_eq, Option.any_eq_true] at attempt
  obtain ⟨⟨⟨⟨role, readable⟩, free⟩, target⟩, user, bound, allowed, other⟩ := attempt
  simp only [requestVisit]
  rw [ServerState.checked_passed (decide_eq_true role) bound, if_neg (by simp [allowed]),
    ServerState.parse_readable readable, if_neg (by simp [free]), if_neg target, if_neg other]

theorem requestVisit_refused {kind : Kind} {state : ServerState} {con : ConnectionId}
    {connection : Connection} {request : VisitRequest} {ambient : Ambient}
    (refused : visitAttempt kind state connection request ambient = false) :
    ServerFrame state (requestVisit kind state con connection request ambient) := by
  simp only [requestVisit]
  apply ServerState.checked_elim
  · exact ServerFrame.disconnect state con
  · intro user role bound
    split
    · exact ServerFrame.disconnect state con
    · rename_i allowed
      apply ServerState.parse_elim
      · exact ServerFrame.noted state _ _ _ _
      · intro readable
        split
        · exact ServerFrame.disconnect state con
        · split
          · exact ServerFrame.disconnect state con
          · split
            · exact ServerFrame.put _ _
            · rename_i free target other
              simp_all [visitAttempt]

structure ManagementFrame (state next : ServerState) : Prop where
  connections : next.connections = state.connections
  connected : next.connected = state.connected
  cleaned : next.cleaned = state.cleaned
  rooms : next.rooms = state.rooms
  tasks : next.tasks = state.tasks
  nextTaskId : next.nextTaskId = state.nextTaskId

theorem ServerFrame.managementFrame {state next : ServerState} (frame : ServerFrame state next) :
    ManagementFrame state next :=
  ⟨frame.connections, frame.connected, frame.cleaned, frame.rooms, frame.tasks, frame.nextTaskId⟩

theorem manage_frame (state : ServerState) (con : ConnectionId) (request : ManagementRequest)
    (ambient : Ambient) : ManagementFrame state (manage md5 state con request ambient) := by
  cases request with
  | listAccount seq filter =>
      simp only [manage, requestListAccount]
      split <;> exact (ServerFrame.put _ _).managementFrame
  | addAccount seq account password => constructor <;> rfl
  | enableAccount seq account => constructor <;> rfl
  | disableAccount seq account =>
      simp only [manage, requestDisableAccount]
      split <;> constructor <;> rfl
  | deleteAccount seq account =>
      simp only [manage, requestDeleteAccount]
      split <;> constructor <;> rfl
  | changeAccountPassword seq account password => constructor <;> rfl
  | listBlockedIPAddresses seq =>
      simp only [manage, requestListBlockedIPAddresses]
      split
      · exact (ServerFrame.crash _ _).managementFrame
      · exact (ServerFrame.put _ _).managementFrame
  | removeBlockedIPAddress seq ipAddress => exact (ServerFrame.noted state _ _ _ _).managementFrame
  | addBlockedIPAddress seq ipAddress duration => exact (ServerFrame.noted state _ _ _ _).managementFrame
  | listBlockedAccounts seq =>
      simp only [manage, requestListBlockedAccounts]
      split
      · exact (ServerFrame.crash _ _).managementFrame
      · exact (ServerFrame.put _ _).managementFrame
  | removeBlockedAccount seq userId => exact (ServerFrame.noted state _ _ _ _).managementFrame
  | addBlockedAccount seq userId duration =>
      simp only [manage, requestAddBlockedAccount]
      split
      · exact (ServerFrame.put _ _).managementFrame
      · exact (ServerFrame.noted state _ _ _ _).managementFrame

theorem handleManagement_frame (state : ServerState) (con : ConnectionId) (connection : Connection)
    (request : ManagementRequest) (ambient : Ambient) :
    ManagementFrame state (handleManagement md5 state con connection request ambient) := by
  simp only [handleManagement]
  split
  · exact (ServerFrame.disconnect state con).managementFrame
  · apply ServerState.parse_elim
    · exact (ServerFrame.noted state _ _ _ _).managementFrame
    · exact fun _ => manage_frame md5 state con request ambient

/-- What one handled message can do to rooms, connections and tasks. -/
inductive MessageEffect (state : ServerState) (con : ConnectionId) (connection : Connection)
    (message : ClientMessage) (ambient : Ambient) (next : ServerState) : Prop where
  | quiet (frame : ServerFrame state next)
  | bound {request : LoginRequest} {info : Account} (isLogin : message = .login request)
      (attempt : loginAttempt md5 state connection request ambient = some info)
      (granted : loginGranted state info request.role = true)
      (connections : next.connections =
        updateAt state.connections con (some
          (boundConnection connection info request.role request.secretKey)))
      (connected : next.connected = state.connected) (cleaned : next.cleaned = state.cleaned)
      (tasks : next.tasks = state.tasks) (nextTaskId : next.nextTaskId = state.nextTaskId)
      (accountManager : next.accountManager = state.accountManager)
  | rolledBack {request : LoginRequest} {info : Account} (isLogin : message = .login request)
      (attempt : loginAttempt md5 state connection request ambient = some info)
      (refused : loginGranted state info request.role = false) (frame : RoomFrame state next)
  | visited {kind : Kind} {request : VisitRequest} (isVisit : message = .requestVisit kind request)
      (attempt : visitAttempt kind state connection request ambient = true)
      (result : next =
        (state.setConnection con { connection with targetUserId := request.userId }).dispatch
          (visitTask kind state con request ambient))
  | answered {kind : Kind} {response : VisitResponse} {task : VisitTask}
      (isAnswer : message = .responseVisit2 kind response)
      (answered : answeredTask kind state connection response ambient = some task)
      (frame : RoomFrame
        (state.setTask response.taskId fun task => { task with destroyed := true }) next)
  | managed {request : ManagementRequest} (isManagement : message = .management request)
      (frame : ManagementFrame state next)

theorem handle_effect (state : ServerState) (con : ConnectionId) (connection : Connection)
    (message : ClientMessage) (ambient : Ambient) :
    MessageEffect md5 state con connection message ambient
      (handle md5 state con connection message ambient) := by
  cases message with
  | login request =>
      cases attempt : loginAttempt md5 state connection request ambient with
      | none => exact .quiet (requestLogin_refused md5 attempt)
      | some info =>
          have completed := requestLogin_attempt md5 con attempt
          cases granted : loginGranted state info request.role with
          | true =>
              obtain ⟨rooms, _, result⟩ :=
                completeLogin_granted con connection request.secretKey granted
              have next := completed.trans result
              apply MessageEffect.bound rfl attempt granted
              all_goals
                simp only [handle]
                rw [next]
                rfl
          | false =>
              have frame := (completeLogin_rolledBack con connection request.secretKey granted).1
              rw [← completed] at frame
              exact .rolledBack rfl attempt granted frame
  | requestVisit kind request =>
      cases attempt : visitAttempt kind state connection request ambient with
      | true => exact .visited rfl attempt (requestVisit_attempt attempt)
      | false => exact .quiet (requestVisit_refused attempt)
  | responseVisit2 kind response =>
      cases answered : answeredTask kind state connection response ambient with
      | none => exact .quiet (responseVisit2_missed answered)
      | some task => exact .answered rfl answered (responseVisit2_frame answered)
  | management request =>
      exact .managed rfl (handleManagement_frame md5 state con connection request ambient)
  | echo _ _ => exact .quiet (handle_quiet md5 trivial)
  | fileRequest _ _ => exact .quiet (handle_quiet md5 trivial)
  | fileResponse _ _ => exact .quiet (handle_quiet md5 trivial)
  | screenControl _ _ => exact .quiet (handle_quiet md5 trivial)
  | setClipboardText _ => exact .quiet (handle_quiet md5 trivial)
  | publishScreenFrame _ => exact .quiet (handle_quiet md5 trivial)
  | publishCursorPosition _ => exact .quiet (handle_quiet md5 trivial)
  | writeCommand _ => exact .quiet (handle_quiet md5 trivial)
  | resizeTerminal _ => exact .quiet (handle_quiet md5 trivial)
  | publishTerminalOutput _ => exact .quiet (handle_quiet md5 trivial)
  | kickoutTerminalVisitor _ => exact .quiet (handle_quiet md5 trivial)

end

end EasyViewer
