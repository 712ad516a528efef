import EasyViewer.RoomVisibility

/-!
What becomes of the visitors that were let in. A room is taken from its manager first and its
viewers are told after that, from a list that is read only once.
-/

namespace EasyViewer

/-- What still tells a connection to disconnect: the call itself, or the reading of the viewers
of a removed room that it is in. -/
def RoomAction.Tells (shared : SharedRooms) (con : ConnectionId) : RoomAction → Prop
  | .disconnect other => other = con
  | .getViewers address => (shared.objects address).room.holds con = true
  | _ => False

/-- The connection is a viewer of a registered room, or told to disconnect, or is about to be. -/
def Attended (pool : RoomThreads) (con : ConnectionId) : Prop :=
  (∃ address, pool.shared.Registered address ∧
      (pool.shared.objects address).room.holds con = true) ∨
    (pool.shared.connections con).disconnecting = true ∨
    ∃ thread, ∃ action ∈ pool.pending thread, action.Tells pool.shared con

def NoOrphans (pool : RoomThreads) : Prop := ∀ con ∈ pool.shared.answered, Attended pool con

theorem Attended.of_idle {pool : RoomThreads} {con : ConnectionId} (attended : Attended pool con)
    (idle : ∀ thread, pool.pending thread = []) :
    (∃ address, pool.shared.Registered address ∧
        (pool.shared.objects address).room.holds con = true) ∨
      (pool.shared.connections con).disconnecting = true := by
  rcases attended with held | told | ⟨thread, action, waits, _⟩
  · exact .inl held
  · exact .inr told
  · rw [idle thread] at waits
    contradiction

/-- A viewer that is really added finds its room registered, or its viewers not read yet. -/
def AddsInTime (pool : RoomThreads) : RoomEvent → Prop
  | .advance thread =>
      match pool.pending thread with
      | .use address (.addViewer src terminalId) :: _ =>
          ((pool.shared.objects address).room.addViewer (pool.shared.objects address).kind
            (fun con => (pool.shared.connections con).user) src terminalId).1 = true →
          pool.shared.Registered address ∨ ∃ other, .getViewers address ∈ pool.pending other
      | _ => True
  | _ => True

def RoomAction.Removes (con : ConnectionId) (action : RoomAction) : Prop :=
  (∃ kind userId, action = .getRoom kind userId (.removeViewer con)) ∨
    ∃ address, action = .use address (.removeViewer con)

namespace SharedRooms

variable {shared : SharedRooms} {con : ConnectionId} {thread : ConnectionId}

theorem setObject_self (address : Nat) (object : RoomObject) :
    (shared.setObject address object).objects address = object :=
  Function.update_self _ _ _

theorem setObject_other {address other : Nat} (object : RoomObject) (different : other ≠ address) :
    (shared.setObject address object).objects other = shared.objects other :=
  Function.update_of_ne different _ _

theorem setConnection_told {connection : RoomConnection}
    (told : (shared.connections con).disconnecting = true → connection.disconnecting = true)
    (other : ConnectionId) (before : (shared.connections other).disconnecting = true) :
    ((shared.setConnection con connection).connections other).disconnecting = true := by
  by_cases isCon : other = con
  · subst isCon
    rw [setConnection_self]
    exact told before
  · rw [setConnection_other connection isCon]
    exact before

theorem enableAutoPublish_frame (address : Nat) (callback : Bool) :
    (shared.enableAutoPublish address callback).objects = shared.objects ∧
      (shared.enableAutoPublish address callback).connections = shared.connections ∧
      (shared.enableAutoPublish address callback).answered = shared.answered ∧
      (shared.enableAutoPublish address callback).rooms = shared.rooms := by
  obtain ⟨fault, missed, same⟩ := enableAutoPublish_eq shared address callback
  rw [same]
  exact ⟨rfl, rfl, rfl, rfl⟩

theorem encrypt_frame (address : Nat) :
    (shared.encrypt address).objects = shared.objects ∧
      (shared.encrypt address).connections = shared.connections ∧
      (shared.encrypt address).answered = shared.answered ∧
      (shared.encrypt address).rooms = shared.rooms := by
  rw [encrypt]
  split
  · exact ⟨rfl, rfl, rfl, rfl⟩
  · exact ⟨rfl, rfl, rfl, rfl⟩

theorem addViewer_frame (address : Nat) (src : ConnectionId) (terminalId : String) :
    (shared.addViewer address src terminalId).1.objects =
        Function.update shared.objects address { shared.objects address with
          room := ((shared.objects address).room.addViewer (shared.objects address).kind
            (fun con => (shared.connections con).user) src terminalId).2 } ∧
      (shared.addViewer address src terminalId).1.connections = shared.connections ∧
      (shared.addViewer address src terminalId).1.answered = shared.answered ∧
      (shared.addViewer address src terminalId).1.rooms = shared.rooms := by
  simp only [addViewer]
  split
  · exact enableAutoPublish_frame _ _
  · exact ⟨rfl, rfl, rfl, rfl⟩

theorem removeViewer_frame (address : Nat) :
    (shared.removeViewer address con).objects =
        Function.update shared.objects address { shared.objects address with
          room := (shared.objects address).room.erase con } ∧
      (shared.removeViewer address con).connections = shared.connections ∧
      (shared.removeViewer address con).answered = shared.answered ∧
      (shared.removeViewer address con).rooms = shared.rooms := by
  simp only [removeViewer]
  split
  · split
    · exact ⟨rfl, rfl, rfl, rfl⟩
    · exact encrypt_frame _
  · split
    · exact enableAutoPublish_frame _ _
    · exact ⟨rfl, rfl, rfl, rfl⟩

theorem login_frame (userId : UserId) (role : UInt32) (place : LoginPlace) :
    (∀ address < shared.size, ((shared.login con userId role place).1.objects address).room =
        (shared.objects address).room) ∧
      (∀ other, (shared.connections other).disconnecting = true →
        ((shared.login con userId role place).1.connections other).disconnecting = true) ∧
      (shared.login con userId role place).1.answered = shared.answered := by
  have setsCallback : ∀ (current : Nat) (object : RoomObject) (address : Nat),
      object.room = (shared.objects current).room →
      ((shared.setObject current object).objects address).room =
        (shared.objects address).room := by
    intro current object address same
    by_cases isCurrent : address = current
    · subst isCurrent
      rw [setObject_self, same]
    · rw [setObject_other object isCurrent]
  cases place with
  | createRoom kinds =>
      cases kinds with
      | nil => exact ⟨fun _ _ => rfl, fun _ told => told, rfl⟩
      | cons kind kinds =>
          simp only [login]
          split
          · split
            · exact ⟨fun _ _ => rfl, fun _ told => told, rfl⟩
            · refine ⟨fun address bound => ?_, fun _ told => told, rfl⟩
              show ((shared.insertRoom kind userId con).objects address).room = _
              rw [insertRoom_old kind bound]
          · exact ⟨fun _ _ => rfl, fun _ told => told, rfl⟩
  | emptyCallback current kinds =>
      exact ⟨fun address _ => setsCallback current _ address rfl, fun _ told => told, rfl⟩
  | nonemptyCallback current kinds =>
      exact ⟨fun address _ => setsCallback current _ address rfl, fun _ told => told, rfl⟩
  | bindUser => exact ⟨fun _ _ => rfl, setConnection_told fun told => told, rfl⟩
  | setSecondCryptology => exact ⟨fun _ _ => rfl, setConnection_told fun told => told, rfl⟩
  | rollBack kinds =>
      cases kinds with
      | nil => exact ⟨fun _ _ => rfl, fun _ told => told, rfl⟩
      | cons kind kinds =>
          simp only [login]
          split
          · exact ⟨fun _ _ => rfl, fun _ told => told, rfl⟩
          · exact ⟨fun _ _ => rfl, fun _ told => told, rfl⟩

theorem holds_addViewer {room : Room} {kind : Kind} {userIdOf : ConnectionId → Option UserId}
    {src : ConnectionId} {terminalId : String} (holds : room.holds con = true) :
    (room.addViewer kind userIdOf src terminalId).2.holds con = true := by
  rcases room.addViewer_cases kind userIdOf src terminalId with added | kept
  · rw [added]
    obtain ⟨viewer, member, isCon⟩ := Room.holds_iff.mp holds
    exact Room.holds_iff.mpr ⟨viewer, List.mem_append_left _ member, isCon⟩
  · rw [kept]
    exact holds

theorem holds_added {room : Room} {kind : Kind} {userIdOf : ConnectionId → Option UserId}
    {src : ConnectionId} {terminalId : String}
    (added : (room.addViewer kind userIdOf src terminalId).1 = true) :
    (room.addViewer kind userIdOf src terminalId).2.holds src = true := by
  rcases room.addViewer_cases kind userIdOf src terminalId with isAdded | kept
  · rw [isAdded]
    exact Room.holds_iff.mpr ⟨kind.viewer src terminalId, by simp, Kind.viewer_con _ _ _⟩
  · rw [kept] at added
    contradiction

theorem holds_erase {room : Room} {other : ConnectionId} (holds : room.holds con = true)
    (different : con ≠ other) : (room.erase other).holds con = true := by
  obtain ⟨viewer, member, isCon⟩ := Room.holds_iff.mp holds
  exact Room.holds_iff.mpr ⟨viewer, Room.mem_erase.mpr ⟨member, isCon ▸ different⟩, isCon⟩

theorem perform_holds {address : Nat} {action : RoomAction} (bound : address < shared.size)
    (holds : (shared.objects address).room.holds con = true) :
    ((shared.perform thread action).1.objects address).room.holds con = true ∨
      action = .use address (.removeViewer con) := by
  cases action with
  | login userId role place =>
      left
      rw [perform, (login_frame userId role place).1 address bound]
      exact holds
  | removeRoom kind userId =>
      left
      simp only [perform]
      split
      · exact holds
      · exact holds
  | getViewers current => exact .inl holds
  | disconnect other => exact .inl holds
  | getRoom kind userId use =>
      left
      simp only [perform]
      split
      · split
        · exact holds
        · exact holds
      · exact holds
  | use current use =>
      cases use with
      | forward encrypted =>
          left
          simp only [perform]
          split
          · rw [(encrypt_frame current).1]
            exact holds
          · exact holds
      | addViewer src terminalId =>
          left
          rw [perform, (addViewer_frame current src terminalId).1, Function.update_apply]
          split
          · rename_i same
            subst same
            exact holds_addViewer holds
          · exact holds
      | removeViewer other =>
          by_cases gone : address = current ∧ con = other
          · obtain ⟨rfl, rfl⟩ := gone
            exact .inr rfl
          · left
            simp only [perform]
            rw [(removeViewer_frame current).1, Function.update_apply]
            split
            · rename_i same
              subst same
              exact holds_erase holds fun isOther => gone ⟨rfl, isOther⟩
            · exact holds
  | feedback src => exact .inl holds

theorem perform_told {action : RoomAction}
    (told : (shared.connections con).disconnecting = true) :
    ((shared.perform thread action).1.connections con).disconnecting = true := by
  cases action with
  | login userId role place =>
      exact (login_frame userId role place).2.1 con told
  | removeRoom kind userId =>
      simp only [perform]
      split
      · exact told
      · exact told
  | getViewers address => exact told
  | disconnect other => exact setConnection_told (fun _ => rfl) con told
  | getRoom kind userId use =>
      simp only [perform]
      split
      · split
        · exact told
        · exact told
      · exact told
  | use address use =>
      cases use with
      | forward encrypted =>
          simp only [perform]
          split
          · rw [(encrypt_frame address).2.1]
            exact told
          · exact told
      | addViewer src terminalId =>
          rw [perform, (addViewer_frame address src terminalId).2.1]
          exact told
      | removeViewer other =>
          simp only [perform]
          rw [(removeViewer_frame address).2.1]
          exact told
  | feedback src => exact told

theorem setRoom_registered {kind : Kind} {userId : UserId} {address current : Nat}
    (registered : shared.Registered address) (found : shared.rooms kind userId = some current) :
    (shared.setRoom kind userId none).Registered address ∨ address = current := by
  by_cases same : (shared.objects address).kind = kind ∧ (shared.objects address).userId = userId
  · have isCurrent := registered.2
    rw [same.1, same.2, found] at isCurrent
    cases isCurrent
    exact .inr rfl
  · refine .inl ⟨registered.1, ?_⟩
    show (if (shared.objects address).kind = kind ∧ (shared.objects address).userId = userId
      then none else _) = some address
    rw [if_neg same]
    exact registered.2

theorem registered_frame {after : SharedRooms} {address : Nat}
    (registered : shared.Registered address) (sideways : Sideways shared after)
    (rooms : after.rooms = shared.rooms) : after.Registered address := by
  have same := sideways.grows.rooms address registered.1
  refine ⟨Nat.lt_of_lt_of_le registered.1 sideways.grows.size, ?_⟩
  rw [same.kind, same.userId, rooms]
  exact registered.2

theorem login_registered {address : Nat} (userId : UserId) (role : UInt32) (place : LoginPlace)
    (registered : shared.Registered address) :
    (shared.login con userId role place).1.Registered address ∨
      .getViewers address ∈ (shared.login con userId role place).2 := by
  cases place with
  | createRoom kinds =>
      left
      cases kinds with
      | nil => exact registered
      | cons kind kinds =>
          simp only [login]
          split
          · split
            · exact registered
            · rename_i free
              refine ⟨Nat.lt_succ_of_lt registered.1, ?_⟩
              show (shared.insertRoom kind userId con).rooms
                ((shared.insertRoom kind userId con).objects address).kind
                ((shared.insertRoom kind userId con).objects address).userId = some address
              rw [insertRoom_old kind registered.1]
              show (if (shared.objects address).kind = kind ∧
                (shared.objects address).userId = userId then some shared.size else _) =
                some address
              split
              · rename_i same
                have taken := registered.2
                rw [same.1, same.2, free] at taken
                contradiction
              · exact registered.2
          · exact registered
  | emptyCallback current kinds =>
      refine .inl (registered_frame registered ?_ rfl)
      exact .of_same rfl (sameRoom_setObject _ rfl rfl rfl (fun _ => rfl) id) (fun _ _ _ => id)
        (fun _ => ⟨rfl, rfl⟩) id
  | nonemptyCallback current kinds =>
      refine .inl (registered_frame registered ?_ rfl)
      exact .of_same rfl (sameRoom_setObject _ rfl rfl rfl id (fun _ => rfl)) (fun _ _ _ => id)
        (fun _ => ⟨rfl, rfl⟩) id
  | bindUser => exact .inl registered
  | setSecondCryptology => exact .inl registered
  | rollBack kinds =>
      cases kinds with
      | nil => exact .inl registered
      | cons kind kinds =>
          simp only [login]
          split
          · exact .inl registered
          · rename_i current found
            rcases setRoom_registered registered found with kept | same
            · exact .inl kept
            · exact .inr (same ▸ List.mem_cons_self)

theorem perform_registered {address : Nat} {action : RoomAction}
    (registered : shared.Registered address) :
    (shared.perform thread action).1.Registered address ∨
      .getViewers address ∈ (shared.perform thread action).2 := by
  cases action with
  | login userId role place => exact login_registered userId role place registered
  | removeRoom kind userId =>
      simp only [perform]
      split
      · exact .inl registered
      · rename_i current found
        rcases setRoom_registered registered found with kept | same
        · exact .inl kept
        · exact .inr (same ▸ List.mem_cons_self)
  | getViewers current => exact .inl registered
  | disconnect other => exact .inl registered
  | getRoom kind userId use =>
      left
      simp only [perform]
      split
      · split
        · exact registered
        · exact registered
      · exact registered
  | use current use =>
      refine .inl (registered_frame registered (perform_sideways thread shared rfl) ?_)
      cases use with
      | forward encrypted =>
          simp only [perform]
          split
          · exact (encrypt_frame current).2.2.2
          · rfl
      | addViewer src terminalId => exact (addViewer_frame current src terminalId).2.2.2
      | removeViewer other => exact (removeViewer_frame current).2.2.2
  | feedback src => exact .inl registered

end SharedRooms

namespace SharedRooms

variable {shared : SharedRooms} {con : ConnectionId} {thread : ConnectionId}

theorem mem_login {action : RoomAction} {userId : UserId} {role : UInt32} {place : LoginPlace}
    (consistent : shared.Consistent) (member : action ∈ (shared.login con userId role place).2) :
    action.isLogin = true ∨ ∃ address < shared.size, action = .getViewers address := by
  cases place with
  | createRoom kinds =>
      left
      cases kinds with
      | nil =>
          cases List.mem_singleton.mp member
          rfl
      | cons kind kinds =>
          simp only [login] at member
          split at member
          · split at member
            · cases List.mem_singleton.mp member
              rfl
            · simp only at member
              split at member
              all_goals
                cases List.mem_singleton.mp member
                rfl
          · cases List.mem_singleton.mp member
            rfl
  | setSecondCryptology => contradiction
  | rollBack kinds =>
      cases kinds with
      | nil => contradiction
      | cons kind kinds =>
          simp only [login] at member
          split at member
          · cases List.mem_singleton.mp member
            exact .inl rfl
          · rename_i address found
            rcases List.mem_cons.mp member with same | later
            · exact .inr ⟨address, (consistent kind userId address found).1, same⟩
            · cases List.mem_singleton.mp later
              exact .inl rfl
  | _ =>
      cases List.mem_singleton.mp member
      exact .inl rfl

theorem mem_perform {action after : RoomAction} (consistent : shared.Consistent)
    (member : after ∈ (shared.perform thread action).2) :
    (∀ src, after = .feedback src → ∃ address terminalId,
        action = .use address (.addViewer src terminalId) ∧
          ((shared.objects address).room.addViewer (shared.objects address).kind
            (fun con => (shared.connections con).user) src terminalId).1 = true) ∧
      (∀ con, after.Removes con → ∃ kind userId,
        action = .getRoom kind userId (.removeViewer con)) ∧
      ∀ address, after = .getViewers address → address < shared.size := by
  cases action with
  | login userId role place =>
      rcases mem_login consistent member with isLogin | ⟨address, bound, rfl⟩
      · cases after with
        | login id other next => simp [RoomAction.Removes]
        | _ => contradiction
      · refine ⟨by simp, by simp [RoomAction.Removes], fun other same => ?_⟩
        cases same
        exact bound
  | removeRoom kind userId =>
      simp only [perform] at member
      split at member
      · contradiction
      · rename_i address found
        cases List.mem_singleton.mp member
        refine ⟨by simp, by simp [RoomAction.Removes], fun other same => ?_⟩
        cases same
        exact (consistent kind userId address found).1
  | getViewers address =>
      obtain ⟨viewer, _, rfl⟩ := List.mem_map.mp member
      simp [RoomAction.Removes]
  | disconnect other => contradiction
  | getRoom kind userId use =>
      simp only [perform] at member
      split at member
      · contradiction
      · cases List.mem_singleton.mp member
        refine ⟨by simp, fun con removes => ?_, by simp⟩
        rcases removes with ⟨_, _, never⟩ | ⟨address, same⟩
        · contradiction
        · cases same
          exact ⟨kind, userId, rfl⟩
  | use address use =>
      cases use with
      | forward encrypted => contradiction
      | addViewer src terminalId =>
          simp only [perform, addViewer] at member
          split at member
          · rename_i added
            cases List.mem_singleton.mp member
            refine ⟨fun other same => ?_, by simp [RoomAction.Removes], by simp⟩
            cases same
            exact ⟨address, terminalId, rfl, added⟩
          · contradiction
      | removeViewer other => contradiction
  | feedback src => contradiction

theorem perform_answered {action : RoomAction}
    (answered : con ∈ (shared.perform thread action).1.answered) :
    con ∈ shared.answered ∨ action = .feedback con := by
  cases action with
  | login userId role place =>
      rw [perform, (login_frame userId role place).2.2] at answered
      exact .inl answered
  | removeRoom kind userId =>
      simp only [perform] at answered
      split at answered
      · exact .inl answered
      · exact .inl answered
  | getViewers address => exact .inl answered
  | disconnect other => exact .inl answered
  | getRoom kind userId use =>
      simp only [perform] at answered
      split at answered
      · split at answered
        · exact .inl answered
        · exact .inl answered
      · exact .inl answered
  | use address use =>
      left
      cases use with
      | forward encrypted =>
          simp only [perform] at answered
          split at answered
          · rwa [(encrypt_frame address).2.2.1] at answered
          · exact answered
      | addViewer src terminalId =>
          rwa [perform, (addViewer_frame address src terminalId).2.2.1] at answered
      | removeViewer other =>
          simp only [perform] at answered
          rwa [(removeViewer_frame address).2.2.1] at answered
  | feedback src =>
      rcases List.mem_cons.mp answered with same | before
      · exact .inr (by rw [same])
      · exact .inl before

theorem perform_size {action : RoomAction} :
    shared.size ≤ (shared.perform thread action).1.size := by
  cases isLogin : action.isLogin with
  | false => exact (perform_sideways thread shared isLogin).grows.size
  | true =>
      cases action with
      | login userId role place =>
          cases place with
          | createRoom kinds =>
              cases kinds with
              | nil => exact Nat.le_refl _
              | cons kind kinds =>
                  simp only [perform, login]
                  split
                  · split
                    · exact Nat.le_refl _
                    · exact Nat.le_succ _
                  · exact Nat.le_refl _
          | rollBack kinds =>
              cases kinds with
              | nil => exact Nat.le_refl _
              | cons kind kinds =>
                  simp only [perform, login]
                  split
                  · exact Nat.le_refl _
                  · exact Nat.le_refl _
          | _ => exact Nat.le_refl _
      | _ => contradiction

end SharedRooms

/-- What is on its way keeps everybody attended: those whom a guard let in, those who leave and
the rooms whose viewers are to be read. -/
structure Attending (pool : RoomThreads) : Prop where
  settled : RoomsSettled pool
  answered : NoOrphans pool
  feedback : ∀ thread src, .feedback src ∈ pool.pending thread → Attended pool src
  leaving : ∀ thread con, ∀ action ∈ pool.pending thread, action.Removes con →
    (pool.shared.connections con).disconnecting = true ∨
      .disconnect con ∈ pool.pending thread
  bounded : ∀ thread address, .getViewers address ∈ pool.pending thread →
    address < pool.shared.size

section

variable {pool next : RoomThreads} {thread : ConnectionId} {con : ConnectionId}

open SharedRooms Threads.Pool

theorem Attended.advance (attending : Attending pool)
    (advanced : pool.advance (SharedRooms.perform thread) thread = some next)
    (attended : Attended pool con) : Attended next con := by
  obtain ⟨action, rest, first, rfl⟩ := Threads.Pool.advance_eq_some.mp advanced
  have head : action ∈ pool.pending thread := first_mem first
  -- whoever is taken out of a room is told by the same thread
  have leaves : ∀ address, action = .use address (.removeViewer con) → Attended
      { shared := (pool.shared.perform thread action).1
        pending := Function.update pool.pending thread
          ((pool.shared.perform thread action).2 ++ rest) } con := by
    rintro address rfl
    rcases attending.leaving thread con _ head (.inr ⟨address, rfl⟩) with told | waits
    · exact .inr (.inl (perform_told told))
    · rcases mem_advanced first waits with ⟨_, same⟩ | later
      · contradiction
      · exact .inr (.inr ⟨thread, _, later, rfl⟩)
  rcases attended with ⟨address, registered, holds⟩ | told | ⟨other, waiting, member, tells⟩
  · rcases @perform_holds pool.shared con thread address action registered.1 holds with
      still | gone
    · rcases @perform_registered pool.shared thread address action registered with kept | read
      · exact .inl ⟨address, kept, still⟩
      · refine .inr (.inr ⟨thread, .getViewers address, ?_, still⟩)
        exact mem_update.mpr (.inl ⟨rfl, List.mem_append_left _ read⟩)
    · exact leaves address gone
  · exact .inr (.inl (perform_told told))
  · rcases mem_advanced first member with ⟨_, same⟩ | later
    · subst same
      cases waiting with
      | disconnect current =>
          have isCon : current = con := tells
          subst isCon
          right
          left
          show ((pool.shared.setConnection current _).connections current).disconnecting = true
          rw [setConnection_self]
      | getViewers address =>
          obtain ⟨viewer, isViewer, isCon⟩ := Room.holds_iff.mp tells
          have told : .disconnect con ∈ (pool.shared.perform thread (.getViewers address)).2 :=
            List.mem_map.mpr ⟨viewer, isViewer, by rw [isCon]⟩
          refine .inr (.inr ⟨thread, .disconnect con, ?_, rfl⟩)
          exact mem_update.mpr (.inl ⟨rfl, List.mem_append_left _ told⟩)
      | _ => contradiction
    · cases waiting with
      | disconnect current => exact .inr (.inr ⟨other, _, later, tells⟩)
      | getViewers address =>
          rcases @perform_holds pool.shared con thread address action
            (attending.bounded other address member) tells with still | gone
          · exact .inr (.inr ⟨other, _, later, still⟩)
          · exact leaves address gone
      | _ => contradiction

theorem Attended.of_added {address : Nat} {src : ConnectionId} {terminalId : String}
    {rest : List RoomAction}
    (first : pool.pending thread = .use address (.addViewer src terminalId) :: rest)
    (added : ((pool.shared.objects address).room.addViewer (pool.shared.objects address).kind
      (fun con => (pool.shared.connections con).user) src terminalId).1 = true)
    (inTime : pool.shared.Registered address ∨
      ∃ other, .getViewers address ∈ pool.pending other) :
    Attended {
      shared := (pool.shared.addViewer address src terminalId).1
      pending := Function.update pool.pending thread
        ((pool.shared.addViewer address src terminalId).2 ++ rest) } src := by
  have holds : ((pool.shared.addViewer address src terminalId).1.objects address).room.holds
      src = true := by
    rw [(addViewer_frame address src terminalId).1, Function.update_self]
    exact holds_added added
  rcases inTime with registered | ⟨other, waits⟩
  · refine .inl ⟨address, registered_frame registered ?_ ?_, holds⟩
    · exact (addViewer_changes pool.shared address src terminalId).sideways
    · exact (addViewer_frame address src terminalId).2.2.2
  · rcases mem_advanced first waits with ⟨_, same⟩ | later
    · contradiction
    · exact .inr (.inr ⟨other, .getViewers address, later, holds⟩)

theorem Attending.advance (attending : Attending pool)
    (inTime : AddsInTime pool (.advance thread))
    (advanced : pool.advance (SharedRooms.perform thread) thread = some next) :
    Attending next := by
  have keeps : ∀ {other}, Attended pool other → Attended next other :=
    fun attended => attended.advance attending advanced
  have settled := attending.settled.advance advanced
  obtain ⟨action, rest, first, rfl⟩ := Threads.Pool.advance_eq_some.mp advanced
  have head : action ∈ pool.pending thread := first_mem first
  refine ⟨settled, fun other answered => ?_, fun other src member => ?_,
    fun other leaver waiting member removes => ?_, fun other address member => ?_⟩
  · rcases perform_answered answered with before | rfl
    · exact keeps (attending.answered other before)
    · exact keeps (attending.feedback thread other head)
  · rcases mem_of_advanced first member with ⟨rfl, new⟩ | before
    · obtain ⟨address, terminalId, rfl, added⟩ :=
        (mem_perform attending.settled.consistent new).1 src rfl
      simp only [AddsInTime, first] at inTime
      exact .of_added first added (inTime added)
    · exact keeps (attending.feedback other src before)
  · have told : ∀ {place}, (pool.shared.connections leaver).disconnecting = true ∨
        .disconnect leaver ∈ pool.pending place →
        (((pool.shared.perform thread action).1.connections leaver).disconnecting = true ∨
          .disconnect leaver ∈ Function.update pool.pending thread
            ((pool.shared.perform thread action).2 ++ rest) place) := by
      rintro place (isTold | waits)
      · exact .inl (perform_told isTold)
      · rcases mem_advanced first waits with ⟨_, rfl⟩ | later
        · left
          show ((pool.shared.setConnection leaver _).connections leaver).disconnecting = true
          rw [setConnection_self]
        · exact .inr later
    rcases mem_of_advanced first member with ⟨rfl, new⟩ | before
    · obtain ⟨kind, userId, rfl⟩ :=
        (mem_perform attending.settled.consistent new).2.1 leaver removes
      exact told (attending.leaving other leaver _ head (.inl ⟨kind, userId, rfl⟩))
    · exact told (attending.leaving other leaver waiting before removes)
  · rcases mem_of_advanced first member with ⟨rfl, new⟩ | before
    · exact Nat.lt_of_lt_of_le
        ((mem_perform attending.settled.consistent new).2.2 address rfl) perform_size
    · exact Nat.lt_of_lt_of_le (attending.bounded other address before) perform_size

theorem Attended.mono (objects : next.shared.objects = pool.shared.objects)
    (size : next.shared.size = pool.shared.size) (rooms : next.shared.rooms = pool.shared.rooms)
    (told : (pool.shared.connections con).disconnecting = true →
      (next.shared.connections con).disconnecting = true)
    (pending : ∀ other, ∀ action ∈ pool.pending other, action ∈ next.pending other)
    (attended : Attended pool con) : Attended next con := by
  rcases attended with ⟨address, registered, holds⟩ | isTold | ⟨other, action, member, tells⟩
  · refine .inl ⟨address, ⟨?_, ?_⟩, ?_⟩
    · rw [size]
      exact registered.1
    · rw [objects, rooms]
      exact registered.2
    · rw [objects]
      exact holds
  · exact .inr (.inl (told isTold))
  · refine .inr (.inr ⟨other, action, pending other action member, ?_⟩)
    cases action with
    | disconnect current => exact tells
    | getViewers address =>
        show (next.shared.objects address).room.holds con = true
        rw [objects]
        exact tells
    | _ => contradiction

theorem Attending.update {after : SharedRooms} (attending : Attending pool)
    (aside : Sideways pool.shared after) (objects : after.objects = pool.shared.objects)
    (size : after.size = pool.shared.size) (rooms : after.rooms = pool.shared.rooms)
    (answered : after.answered = pool.shared.answered)
    (told : ∀ con, (pool.shared.connections con).disconnecting = true →
      (after.connections con).disconnecting = true) :
    Attending { pool with shared := after } := by
  have keeps : ∀ {con}, Attended pool con → Attended { pool with shared := after } con :=
    fun attended => attended.mono objects size rooms (told _) fun _ _ => id
  refine ⟨attending.settled.update aside, fun con isAnswered => ?_, fun other src member => ?_,
    fun other leaver waiting member removes => ?_, fun other address member => ?_⟩
  · exact keeps (attending.answered con (by rwa [← answered]))
  · exact keeps (attending.feedback other src member)
  · exact (attending.leaving other leaver waiting member removes).imp (told leaver) id
  · show address < after.size
    rw [size]
    exact attending.bounded other address member

theorem Attending.start {actions : List RoomAction} (attending : Attending pool)
    (settled : RoomsSettled next)
    (started : pool.start thread pool.shared actions = some next)
    (plain : ∀ action ∈ actions,
      (∀ src, action ≠ .feedback src) ∧ ∀ address, action ≠ .getViewers address)
    (leaving : ∀ leaver, ∀ action ∈ actions, action.Removes leaver →
      .disconnect leaver ∈ actions) : Attending next := by
  obtain ⟨idle, rfl⟩ := Threads.Pool.start_eq_some.mp started
  have keeps : ∀ {con}, Attended pool con → Attended
      { shared := pool.shared, pending := Function.update pool.pending thread actions } con := by
    intro con attended
    exact @Attended.mono pool
      { shared := pool.shared, pending := Function.update pool.pending thread actions } con rfl
      rfl rfl id (fun _ _ => mem_started idle) attended
  refine ⟨settled, fun con answered => keeps (attending.answered con answered),
    fun other src member => ?_, fun other leaver action member removes => ?_,
    fun other address member => ?_⟩
  · rcases mem_update.mp member with ⟨_, new⟩ | ⟨_, before⟩
    · exact absurd rfl ((plain _ new).1 src)
    · exact keeps (attending.feedback other src before)
  · rcases mem_update.mp member with ⟨rfl, new⟩ | ⟨_, before⟩
    · exact .inr (mem_update.mpr (.inl ⟨rfl, leaving leaver action new removes⟩))
    · exact (attending.leaving other leaver action before removes).imp id (mem_started idle)
  · rcases mem_update.mp member with ⟨_, new⟩ | ⟨_, before⟩
    · exact absurd rfl ((plain _ new).2 address)
    · exact attending.bounded other address before

theorem clean_tells (connection : RoomConnection) (con : ConnectionId) :
    (∀ action ∈ connection.clean con,
      (∀ src, action ≠ .feedback src) ∧ ∀ address, action ≠ .getViewers address) ∧
      ∀ leaver, ∀ action ∈ connection.clean con, action.Removes leaver →
        .disconnect leaver ∈ connection.clean con := by
  have last : .disconnect con ∈ connection.clean con :=
    List.mem_append_right _ (List.mem_singleton.mpr rfl)
  have each : ∀ action ∈ connection.clean con,
      ((∀ src, action ≠ .feedback src) ∧ ∀ address, action ≠ .getViewers address) ∧
        ∀ leaver, action.Removes leaver → leaver = con := by
    intro action member
    rcases List.mem_append.mp member with leaves | isLast
    · split at leaves
      · contradiction
      · split at leaves
        · obtain ⟨kind, _, rfl⟩ := List.mem_map.mp leaves
          simp [RoomAction.Removes]
        · split at leaves
          · split at leaves
            · contradiction
            · cases List.mem_singleton.mp leaves
              refine ⟨by simp, fun leaver removes => ?_⟩
              rcases removes with ⟨_, _, same⟩ | ⟨_, never⟩
              · cases same
                rfl
              · contradiction
          · contradiction
    · cases List.mem_singleton.mp isLast
      simp [RoomAction.Removes]
  refine ⟨fun action member => (each action member).1, fun leaver action member removes => ?_⟩
  rw [(each action member).2 leaver removes]
  exact last

theorem Attending.step {event : RoomEvent} (attending : Attending pool)
    (inTime : AddsInTime pool event) (stepped : roomStep pool event = some next) :
    Attending next := by
  have settled := attending.settled.step stepped
  cases RoomMove.of_step stepped with
  | login unbound first started =>
      exact attending.start settled started (by simp) (by simp [RoomAction.Removes])
  | update inert user key told =>
      exact attending.update (RoomsSettled.setConnection_sideways user key) rfl rfl rfl rfl
        (setConnection_told told)
  | getRoom isThread notAdvance enters started =>
      refine attending.start settled started (by simp) fun leaver action member removes => ?_
      cases List.mem_singleton.mp member
      rcases removes with ⟨_, _, same⟩ | ⟨_, never⟩
      · cases same
        exact absurd rfl (enters leaver)
      · contradiction
  | @clean con _ started =>
      have aside : Sideways pool.shared (pool.shared.setConnection con
          { pool.shared.connections con with cleaned := true }) :=
        RoomsSettled.setConnection_sideways rfl rfl
      have marked := attending.update aside rfl rfl rfl rfl (setConnection_told fun told => told)
      obtain ⟨plain, leaving⟩ := clean_tells (pool.shared.connections con) con
      exact @Attending.start _ next con ((pool.shared.connections con).clean con) marked
        settled started plain leaving
  | advance advanced => exact attending.advance inTime advanced

end

theorem initialRooms_attending : Attending initialRooms where
  settled := initialRooms_settled
  answered _ member := by contradiction
  feedback _ _ member := by contradiction
  leaving _ _ _ member := by contradiction
  bounded _ _ member := by contradiction

/-- In a run of any threads whose viewers are all added in time, every visitor that was answered
with success is in a registered room or told to disconnect, or about to be told. -/
theorem no_orphans {events : List RoomEvent}
    (inTime : Transition.Happening roomStep AddsInTime initialRooms events) :
    Transition.Throughout roomStep NoOrphans initialRooms events :=
  (inTime.throughout roomStep (fun _ _ _ attending isInTime stepped =>
    attending.step isInTime stepped) initialRooms_attending).mono roomStep
    fun _ attending => attending.answered

def terminalVisited : List RoomEvent :=
  [.login 1 7 Role.terminalGuard, .advance 1, .advance 1, .advance 1, .respond 2 .terminal 7 3 "t",
    .advance 2, .advance 2, .advance 2]

theorem terminalVisited_attended :
    Transition.Throughout roomStep NoOrphans initialRooms terminalVisited := by
  refine no_orphans ?_
  refine .cons roomStep rfl trivial ?_
  refine .cons roomStep rfl trivial ?_
  refine .cons roomStep rfl trivial ?_
  refine .cons roomStep rfl trivial ?_
  refine .cons roomStep rfl trivial ?_
  refine .cons roomStep rfl trivial ?_
  refine .cons roomStep rfl (fun _ => .inl ⟨by decide, rfl⟩) ?_
  refine .cons roomStep rfl trivial ?_
  trivial

theorem roomStep_pending {pool next : RoomThreads} {event : RoomEvent} {other : ConnectionId}
    (elsewhere : event.thread ≠ some other) (stepped : roomStep pool event = some next) :
    next.pending other = pool.pending other := by
  have away : ∀ {thread}, some thread ≠ some other → other ≠ thread := by
    rintro thread different rfl
    exact different rfl
  have started : ∀ {thread after actions}, some thread ≠ some other →
      pool.start thread after actions = some next → next.pending other = pool.pending other := by
    intro thread after actions different start
    obtain ⟨_, rfl⟩ := Threads.Pool.start_eq_some.mp start
    exact Function.update_of_ne (away different) _ _
  cases RoomMove.of_step stepped with
  | login unbound first start => exact started elsewhere start
  | update inert user key told => rfl
  | getRoom isThread notAdvance enters start => exact started (isThread ▸ elsewhere) start
  | clean start => exact started elsewhere start
  | advance advanced =>
      obtain ⟨_, _, _, rfl⟩ := Threads.Pool.advance_eq_some.mp advanced
      exact Function.update_of_ne (away elsewhere) _ _

theorem run_pending {pool final : RoomThreads} {events : List RoomEvent} {other : ConnectionId}
    (elsewhere : ∀ event ∈ events, event.thread ≠ some other)
    (ran : Transition.run roomStep pool events = some final) :
    final.pending other = pool.pending other := by
  induction events generalizing pool with
  | nil =>
      cases ran
      rfl
  | cons event events ih =>
      obtain ⟨next, stepped, rest⟩ := (Transition.run_cons roomStep).mp ran
      rw [ih (fun later member => elsewhere later (List.mem_cons_of_mem _ member)) rest,
        roomStep_pending (elsewhere event List.mem_cons_self) stepped]

/-- A second login to the guard's account fails, and rolls the first one's room back after
`handleResponse` has found it: the viewers are read before the visitor is added. -/
def visitedTooLate : List RoomEvent :=
  [.login 1 7 Role.terminalGuard, .advance 1, .advance 1, .advance 1, .advance 1, .advance 1,
    .advance 1, .respond 1 .terminal 7 3 "t", .advance 1,
    .login 2 7 Role.terminalGuard, .advance 2, .advance 2, .advance 2, .advance 2, .advance 2,
    .advance 2, .advance 2, .advance 2, .advance 1, .advance 1]

theorem visitedTooLate_orphan :
    ¬ Transition.Throughout roomStep NoOrphans initialRooms visitedTooLate := by
  intro attended
  have reached : ∃ final, Transition.run roomStep initialRooms visitedTooLate = some final ∧
      3 ∈ final.shared.answered ∧ final.shared.size = 1 ∧
      final.shared.rooms .terminal 7 = none ∧ (final.shared.objects 0).kind = .terminal ∧
      (final.shared.objects 0).userId = 7 ∧
      (final.shared.connections 3).disconnecting = false ∧
      final.pending 1 = [] ∧ final.pending 2 = [] :=
    ⟨_, rfl, by decide, rfl, rfl, rfl, rfl, rfl, rfl, rfl⟩
  obtain ⟨final, ran, answered, size, removed, kind, userId, untold, first, second⟩ := reached
  have idle : ∀ thread, final.pending thread = [] := by
    intro thread
    by_cases isFirst : thread = 1
    · rw [isFirst, first]
    · by_cases isSecond : thread = 2
      · rw [isSecond, second]
      · rw [run_pending (fun event member => ?_) ran]
        · rfl
        · simp only [visitedTooLate, List.mem_cons, List.not_mem_nil, or_false] at member
          rcases member with rfl | rfl | rfl | rfl | rfl | rfl | rfl | rfl | rfl | rfl | rfl |
            rfl | rfl | rfl | rfl | rfl | rfl | rfl | rfl | rfl
          all_goals simp [RoomEvent.thread, Ne.symm isFirst, Ne.symm isSecond]
  rcases (attended.final roomStep ran 3 answered).of_idle idle with ⟨address, registered, _⟩ | told
  · have isZero : address = 0 := by
      have bound := registered.1
      omega
    have found := registered.2
    rw [isZero, kind, userId, removed] at found
    contradiction
  · rw [untold] at told
    contradiction

end EasyViewer
