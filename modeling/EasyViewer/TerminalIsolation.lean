import EasyViewer.ServerOutputs
import EasyViewer.Visits

/-!
Terminals and their viewers. A viewer's input carries the terminal id that its own
connection was let in with, and a guard's output goes to the connection that was let in
with the id it carries; with ids that a guard gives out once, these are the same two.
-/

namespace EasyViewer

def Listed (rooms : Rooms) (kind : Kind) (userId : UserId) (viewer : Viewer) : Prop :=
  ∃ room, rooms kind userId = some room ∧ viewer ∈ room.viewers

/-- The connection was let in with this terminal, and has not left since. -/
def RegisteredTerminal (history : List RoomChange) (userId : UserId) (viewer : Viewer) : Prop :=
  ∃ before after, history = before ++ .letIn .terminal userId viewer :: after ∧
    ∀ later ∈ after, ¬ later.Ends .terminal userId viewer.con

def UniqueTerminalIds (history : List RoomChange) : Prop :=
  history.Pairwise fun first second => ∀ userId viewer other,
    first = .letIn .terminal userId viewer → second = .letIn .terminal userId other →
      viewer.terminalId ≠ other.terminalId

section

variable {rooms : Rooms} {userId : UserId} {viewer : Viewer}

theorem listed_createdRooms {owner : ConnectionId} {id : UserId} {role : UInt32} :
    Listed (createdRooms owner id role rooms) .terminal userId viewer ↔
      Listed rooms .terminal userId viewer ∧
        ¬ (id = userId ∧ Role.has role Kind.terminal.flag) := by
  simp only [Listed, createdRooms]
  constructor
  · rintro ⟨room, stands, member⟩
    split at stands
    · cases stands
      contradiction
    · rename_i apart
      exact ⟨⟨room, stands, member⟩, fun ends => apart ⟨ends.1.symm, ends.2⟩⟩
  · rintro ⟨⟨room, stands, member⟩, apart⟩
    rw [if_neg fun opened => apart ⟨opened.1.symm, opened.2⟩]
    exact ⟨room, stands, member⟩

theorem listed_removed (closes : Kind → UserId → Prop) [∀ kind id, Decidable (closes kind id)] :
    Listed (fun kind id => if closes kind id then none else rooms kind id) .terminal userId viewer ↔
      Listed rooms .terminal userId viewer ∧ ¬ closes .terminal userId := by
  simp only [Listed]
  constructor
  · rintro ⟨room, stands, member⟩
    split at stands
    · contradiction
    · rename_i apart
      exact ⟨⟨room, stands, member⟩, apart⟩
  · rintro ⟨⟨room, stands, member⟩, apart⟩
    rw [if_neg apart]
    exact ⟨room, stands, member⟩

theorem listed_letIn {kind : Kind} {id : UserId} {other : Viewer}
    (valid : (RoomChange.letIn kind id other).Valid rooms) :
    Listed ((RoomChange.letIn kind id other).apply rooms) .terminal userId viewer ↔
      RoomChange.letIn kind id other = .letIn .terminal userId viewer ∨
        Listed rooms .terminal userId viewer := by
  obtain ⟨before, stood⟩ := valid
  simp only [RoomChange.apply, Listed]
  by_cases here : Kind.terminal = kind ∧ userId = id
  · obtain ⟨rfl, rfl⟩ := here
    simp [SharingRoomManager.set_self, stood, eq_comm, or_comm]
  · rw [SharingRoomManager.set_other here]
    constructor
    · exact Or.inr
    · rintro (⟨rfl, rfl, rfl⟩ | listed)
      · exact absurd ⟨rfl, rfl⟩ here
      · exact listed

theorem listed_leave {kind : Kind} {id : UserId} {con : ConnectionId} :
    Listed ((RoomChange.leave kind id con).apply rooms) .terminal userId viewer ↔
      Listed rooms .terminal userId viewer ∧
        ¬ (kind = .terminal ∧ id = userId ∧ con = viewer.con) := by
  simp only [RoomChange.apply, Listed]
  by_cases here : Kind.terminal = kind ∧ userId = id
  · obtain ⟨rfl, rfl⟩ := here
    cases stood : rooms .terminal userId with
    | none => simp [SharingRoomManager.set_self]
    | some before => simp [SharingRoomManager.set_self, Room.mem_erase, eq_comm]
  · rw [SharingRoomManager.set_other here]
    exact ⟨fun listed => ⟨listed, fun left => here ⟨left.1.symm, left.2.1.symm⟩⟩, And.left⟩

theorem listed_apply {change : RoomChange} (valid : change.Valid rooms) :
    Listed (change.apply rooms) .terminal userId viewer ↔
      change = .letIn .terminal userId viewer ∨
        Listed rooms .terminal userId viewer ∧ ¬ change.Ends .terminal userId viewer.con := by
  cases change with
  | keep => simp [RoomChange.apply, RoomChange.Ends]
  | create owner id role => simpa [RoomChange.apply, RoomChange.Ends] using listed_createdRooms
  | rollBack id =>
      have removed : Listed (RoomChange.apply (.rollBack id) rooms) .terminal userId viewer ↔
          Listed rooms .terminal userId viewer ∧ ¬ userId = id :=
        listed_removed fun _ other => other = id
      simpa [RoomChange.Ends, eq_comm (b := id)] using removed
  | letIn kind id other => simpa [RoomChange.Ends] using listed_letIn valid
  | leave kind id con => simpa [RoomChange.Ends] using listed_leave
  | close id role =>
      have removed : Listed (RoomChange.apply (.close id role) rooms) .terminal userId viewer ↔
          Listed rooms .terminal userId viewer ∧
            ¬ (userId = id ∧ Role.has role Kind.terminal.flag) :=
        listed_removed fun kind other => other = id ∧ Role.has role kind.flag
      simpa [RoomChange.Ends, eq_comm (b := id)] using removed

theorem registeredTerminal_append {history : List RoomChange} {change : RoomChange} :
    RegisteredTerminal (history ++ [change]) userId viewer ↔
      change = .letIn .terminal userId viewer ∨
        RegisteredTerminal history userId viewer ∧
          ¬ change.Ends .terminal userId viewer.con := by
  constructor
  · rintro ⟨before, after, split, lasts⟩
    rcases List.eq_nil_or_concat after with rfl | ⟨rest, last, rfl⟩
    · obtain ⟨_, same⟩ := List.append_inj' split rfl
      exact Or.inl (List.singleton_inj.mp same)
    · rw [List.concat_eq_append, ← List.cons_append, ← List.append_assoc] at split
      rw [List.concat_eq_append] at lasts
      obtain ⟨earlier, same⟩ := List.append_inj' split rfl
      rw [List.singleton_inj] at same
      subst same
      refine Or.inr ⟨⟨before, rest, earlier, ?_⟩, ?_⟩
      · intro later listed
        exact lasts later (List.mem_append.mpr (Or.inl listed))
      · exact lasts change (List.mem_append.mpr (Or.inr (List.mem_singleton.mpr rfl)))
  · rintro (rfl | ⟨⟨before, after, rfl, lasts⟩, goesOn⟩)
    · exact ⟨history, [], rfl, by simp⟩
    · refine ⟨before, after ++ [change], by simp, ?_⟩
      intro later listed
      rcases List.mem_append.mp listed with old | new
      · exact lasts later old
      · rw [List.mem_singleton] at new
        exact new ▸ goesOn

theorem UniqueTerminalIds.same {history : List RoomChange} {other : Viewer}
    (unique : UniqueTerminalIds history)
    (first : RoomChange.letIn .terminal userId viewer ∈ history)
    (second : RoomChange.letIn .terminal userId other ∈ history)
    (alike : viewer.terminalId = other.terminalId) : viewer = other := by
  induction history with
  | nil => contradiction
  | cons change history ih =>
      obtain ⟨head, tail⟩ := List.pairwise_cons.mp unique
      rcases List.mem_cons.mp first with isFirst | first <;>
        rcases List.mem_cons.mp second with isSecond | second
      · injection isFirst.trans isSecond.symm
      · exact absurd alike (head _ second userId viewer other isFirst.symm rfl)
      · exact absurd alike.symm (head _ first userId other viewer isSecond.symm rfl)
      · exact ih tail first second

theorem RegisteredTerminal.mem {history : List RoomChange}
    (registered : RegisteredTerminal history userId viewer) :
    RoomChange.letIn .terminal userId viewer ∈ history := by
  obtain ⟨before, after, rfl, _⟩ := registered
  simp

end

section

variable {md5 : String → String} {state : ServerState} {con : ConnectionId}
  {connection : Connection} {ambient : Ambient}

theorem listed_iff_registered {accountManager : AccountManager} {events : List Event}
    (ran : Transition.run (serverStep md5) (initialServer accountManager) events = some state)
    (runs : state.fault = none) (userId : UserId) (viewer : Viewer) :
    Listed state.rooms .terminal userId viewer ↔
      RegisteredTerminal (roomHistory md5 (initialServer accountManager) events) userId viewer := by
  induction events using List.reverseRecOn generalizing state with
  | nil =>
      simp only [Transition.run, Option.some.injEq] at ran
      subst ran
      constructor
      · rintro ⟨room, stands, _⟩
        contradiction
      · rintro ⟨before, after, split, _⟩
        exact absurd split (by simp [roomHistory])
  | append_singleton events event ih =>
      obtain ⟨middle, before, after⟩ := (Transition.run_append _).mp ran
      obtain ⟨next, stepped, done⟩ := (Transition.run_cons _).mp after
      simp only [Transition.run, Option.some.injEq] at done
      subst done
      rw [roomHistory_step before stepped, registeredTerminal_append,
        serverStep_rooms stepped runs, listed_apply (roomChange_valid middle event),
        ih before (serverStep_some.mp stepped).1]

theorem getTerminalId_listed {room : Room}
    (named : (TerminalSharingRoom.getTerminalId room con).isEmpty = false) :
    { con := con, terminalId := TerminalSharingRoom.getTerminalId room con } ∈ room.viewers := by
  simp only [TerminalSharingRoom.getTerminalId] at named ⊢
  split at named
  · contradiction
  · rename_i viewer found
    have same : viewer.con = con := by simpa using List.find?_some found
    subst same
    exact List.mem_of_find?_eq_some found

/-- Input goes to the target's guard with the sender's user id and terminal id. -/
def CarriesTerminal (state : ServerState) (con : ConnectionId) (connection : Connection)
    (request : TerminalMessage) (output : Output) : Prop :=
  ∃ user room terminalId tag, connection.user = some user ∧
    state.rooms .terminal connection.targetUserId = some room ∧
    { con := con, terminalId := terminalId } ∈ room.viewers ∧
    output = .toGuard con room.owner .terminal {
      tag := tag
      body := .terminal { request with userId := user.id, terminalId := terminalId } }

theorem terminalInput_carries (tag : UInt32) (request : TerminalMessage) :
    Sends (CarriesTerminal state con connection request) state
      (terminalInput tag state con connection request ambient) := by
  apply Sends.checked
  intro user _ bound
  apply Sends.parse
  intro _
  split
  · exact Sends.same rfl
  · rename_i room stands
    simp only
    split
    · exact Sends.same rfl
    · rename_i named
      have listed := getTerminalId_listed (Bool.eq_false_of_not_eq_true named)
      exact (Sends.refl state).put ⟨user, room, _, tag, bound, stands, listed, rfl⟩

/-- Output goes to a viewer of the guard's own room with the ids that it carries. -/
def NamesViewer (state : ServerState) (con : ConnectionId) (connection : Connection)
    (publish : TerminalMessage) (output : Output) : Prop :=
  ∃ user target, connection.user = some user ∧
    Listed state.rooms .terminal user.id
      { con := target, terminalId := publish.terminalId } ∧
    state.userIdOf target = some publish.userId ∧
    output = .toVisitor con target .terminal {
      tag := Tag.publishTerminalOutput, body := .terminal publish }

theorem publishTerminalOutput_names (publish : TerminalMessage) :
    Sends (NamesViewer state con connection publish) state
      (publishTerminalOutput state con connection publish ambient) := by
  apply Sends.checked
  intro user _ bound
  apply Sends.parse
  intro _
  split
  · exact Sends.same rfl
  · rename_i room stands
    split
    · exact Sends.refl state
    · rename_i viewer found
      have named := List.find?_some found
      simp only [Bool.decide_and, Bool.and_eq_true, decide_eq_true_eq] at named
      simp only [ServerState.relayToViewers]
      refine (Sends.refl state).put ⟨user, viewer.con, bound, ⟨room, stands, ?_⟩, named.1, rfl⟩
      rw [← named.2]
      exact List.mem_of_find?_eq_some found

theorem terminalInput_relays (tag : UInt32) (request : TerminalMessage) {user : Account}
    {viewer : Viewer} (bound : connection.user = some user)
    (isVisitor : connection.role = Role.terminalVisitor) (readable : ambient.readable = true)
    (listed : Listed state.rooms .terminal connection.targetUserId viewer)
    (isSender : viewer.con = con)
    (named : ∀ terminalId,
      Listed state.rooms .terminal connection.targetUserId
        { con := con, terminalId := terminalId } → terminalId ≠ "") :
    ∃ source target kind packet, Output.toGuard source target kind packet ∈
      (terminalInput tag state con connection request ambient).outputs := by
  obtain ⟨room, stands, member⟩ := listed
  have nonempty : (TerminalSharingRoom.getTerminalId room con).isEmpty = false := by
    simp only [TerminalSharingRoom.getTerminalId]
    split
    · rename_i nobody
      exact absurd isSender (by simpa using List.find?_eq_none.mp nobody viewer member)
    · rename_i first found
      have same : first.con = con := by simpa using List.find?_some found
      have apart := named first.terminalId
        ⟨room, stands, by subst same; exact List.mem_of_find?_eq_some found⟩
      simpa using apart
  simp only [terminalInput, ServerState.checked, ServerState.parse, isVisitor, bound, readable,
    stands, nonempty, ServerState.relayToGuard, ServerState.put, decide_true,
    not_true_eq_false, if_false, if_true, Bool.false_eq_true]
  exact ⟨_, _, _, _, List.mem_append.mpr (Or.inr (List.mem_singleton.mpr rfl))⟩

/-- In every run where guards give out each terminal id once: what a viewer types, or a
resize, reaches a guard only with a terminal id that the run has registered for that very
connection, and reaches it when there is one; a guard's output is delivered only to the
connection registered with its terminal id, which belongs to its user. -/
theorem terminals_isolated (md5 : String → String) (accountManager : AccountManager)
    (events : List Event) (state : ServerState)
    (ran : Transition.run (serverStep md5) (initialServer accountManager) events = some state)
    (unique : UniqueTerminalIds (roomHistory md5 (initialServer accountManager) events))
    (con : ConnectionId) (ambient : Ambient) (next : ServerState) :
    (∀ request message, message = .writeCommand request ∨ message = .resizeTerminal request →
      serverStep md5 state (.message con message ambient) = some next →
        (∀ source target kind packet, Output.toGuard source target kind packet ∈ next.outputs →
          ∃ connection user room terminalId, state.connections con = some connection ∧
            connection.user = some user ∧
            state.rooms .terminal connection.targetUserId = some room ∧ target = room.owner ∧
            RegisteredTerminal (roomHistory md5 (initialServer accountManager) events)
              connection.targetUserId { con := con, terminalId := terminalId } ∧
            packet.body =
              .terminal { request with userId := user.id, terminalId := terminalId }) ∧
        ∀ connection user terminalId, state.connections con = some connection →
          connection.user = some user → connection.role = Role.terminalVisitor →
          ambient.readable = true →
          RegisteredTerminal (roomHistory md5 (initialServer accountManager) events)
            connection.targetUserId { con := con, terminalId := terminalId } →
          (∀ other, RegisteredTerminal (roomHistory md5 (initialServer accountManager) events)
            connection.targetUserId { con := con, terminalId := other } → other ≠ "") →
            ∃ source target kind packet,
              Output.toGuard source target kind packet ∈ next.outputs) ∧
      ∀ publish, serverStep md5 state
          (.message con (.publishTerminalOutput publish) ambient) = some next →
        ∀ source target kind packet, Output.toVisitor source target kind packet ∈ next.outputs →
          packet.body = .terminal publish ∧ state.userIdOf target = some publish.userId ∧
          ∃ userId, state.userIdOf con = some userId ∧
            RegisteredTerminal (roomHistory md5 (initialServer accountManager) events) userId
              { con := target, terminalId := publish.terminalId } ∧
            ∀ viewer, RegisteredTerminal
                (roomHistory md5 (initialServer accountManager) events) userId viewer →
              viewer.terminalId = publish.terminalId → viewer.con = target := by
  constructor
  · intro request message isInput stepped
    obtain ⟨runs, happened⟩ := serverStep_some.mp stepped
    have registered := listed_iff_registered ran runs
    obtain ⟨connection, known, _, _, rfl⟩ := eventStep_message happened
    obtain ⟨tag, isInput⟩ : ∃ tag, handle md5 { state with outputs := [] } con connection message
        ambient = terminalInput tag { state with outputs := [] } con connection request ambient := by
      rcases isInput with rfl | rfl
      · exact ⟨_, rfl⟩
      · exact ⟨_, rfl⟩
    rw [isInput]
    constructor
    · intro source target kind packet sent
      rcases terminalInput_carries tag request _ sent with earlier | carried
      · contradiction
      · obtain ⟨user, room, terminalId, _, bound, stands, member, isPacket⟩ := carried
        cases isPacket
        exact ⟨connection, user, room, terminalId, known, bound, stands, rfl,
          (registered _ _).mp ⟨room, stands, member⟩, rfl⟩
    · intro connection' user terminalId known' bound isVisitor readable registeredHere named
      obtain rfl : connection = connection' := Option.some.inj (known.symm.trans known')
      exact terminalInput_relays tag request bound isVisitor readable
        ((registered _ _).mpr registeredHere) rfl fun other listed =>
          named other ((registered _ _).mp listed)
  · intro publish stepped source target kind packet sent
    obtain ⟨runs, happened⟩ := serverStep_some.mp stepped
    have registered := listed_iff_registered ran runs
    obtain ⟨connection, known, _, _, rfl⟩ := eventStep_message happened
    rcases publishTerminalOutput_names publish _ sent with earlier | named
    · contradiction
    · obtain ⟨user, viewer, bound, listed, belongs, isPacket⟩ := named
      cases isPacket
      have registeredHere := (registered _ _).mp listed
      refine ⟨rfl, belongs, user.id, ?_, registeredHere, ?_⟩
      · have known : state.connections con = some connection := known
        simp [ServerState.userIdOf, ServerState.userOf, known, bound]
      · intro other registeredThere alike
        exact congrArg Viewer.con (unique.same registeredThere.mem registeredHere.mem alike)

def twoTerminals : List Event := [
  .connect 1 .application "10.0.0.1",
  .connect 2 .application "10.0.0.2",
  .connect 3 .application "10.0.0.3",
  .message 1 (.login {
    account := "guard", password := "", role := Role.terminalGuard, secretKey := "k" }) {},
  .message 2 (.login {
    account := "visitor", password := "", role := Role.terminalVisitor, secretKey := "k" }) {},
  .message 3 (.login {
    account := "visitor", password := "", role := Role.terminalVisitor, secretKey := "k" }) {},
  .message 2 (.requestVisit .terminal { userId := 1, authString := "" }) {},
  .execute 1,
  .message 1 (.responseVisit2 .terminal {
    taskId := 1, certificate := 0, errCode := 0, terminalId := "a" }) {},
  .message 3 (.requestVisit .terminal { userId := 1, authString := "" }) {},
  .execute 2,
  .message 1 (.responseVisit2 .terminal {
    taskId := 2, certificate := 0, errCode := 0, terminalId := "b" }) {}]

theorem twoTerminals_unique :
    UniqueTerminalIds (roomHistory noDigest (initialServer twoAccounts) twoTerminals) := by
  have history : roomHistory noDigest (initialServer twoAccounts) twoTerminals = [
      .keep, .keep, .keep, .create 1 1 Role.terminalGuard, .keep, .keep, .keep, .keep,
      .letIn .terminal 1 { con := 2, terminalId := "a" }, .keep, .keep,
      .letIn .terminal 1 { con := 3, terminalId := "b" }] := rfl
  rw [history]
  simp [UniqueTerminalIds]
  rintro _ _ _ _ rfl _ rfl
  decide

theorem terminals_isolated_twoTerminals : ∃ state next,
    Transition.run (serverStep noDigest) (initialServer twoAccounts) twoTerminals = some state ∧
      serverStep noDigest state
        (.message 1 (.publishTerminalOutput { userId := 2, terminalId := "b" }) {}) = some next ∧
      ∃ userId, state.userIdOf 1 = some userId ∧
        RegisteredTerminal (roomHistory noDigest (initialServer twoAccounts) twoTerminals) userId
          { con := 3, terminalId := "b" } ∧
        ∀ viewer, RegisteredTerminal
            (roomHistory noDigest (initialServer twoAccounts) twoTerminals) userId viewer →
          viewer.terminalId = "b" → viewer.con = 3 := by
  refine ⟨_, _, rfl, rfl, ?_⟩
  have isolated := (terminals_isolated noDigest twoAccounts twoTerminals _ rfl
    twoTerminals_unique 1 {} _).2 { userId := 2, terminalId := "b" } rfl 1 3 .terminal _
      (List.mem_singleton.mpr rfl)
  exact isolated.2.2

end

end EasyViewer
