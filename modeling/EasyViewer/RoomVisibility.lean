import EasyViewer.RoomThreads

/-!
When `getRoom` gives out a usable room. A registered room belongs to a login that is still
under way or is usable, and never both: the key comes last.
-/

namespace EasyViewer

/-- Every room given out was usable, no message was encrypted without a key and none of the
screen rooms' messages was left out. -/
def RoomsUsable (pool : RoomThreads) : Prop :=
  pool.shared.unusable = [] ∧ pool.shared.missed = [] ∧ pool.shared.fault ≠ some .nullPointer

def LoggingIn (pool : RoomThreads) (con : ConnectionId) : Prop :=
  ∃ userId role place, .login userId role place ∈ pool.pending con

/-- A room is looked up only when the login of its owner is over. -/
def LooksUpSettled (pool : RoomThreads) : RoomEvent → Prop
  | .advance thread =>
      ∀ kind userId use rest address, pool.pending thread = .getRoom kind userId use :: rest →
        pool.shared.rooms kind userId = some address →
          ¬ LoggingIn pool (pool.shared.owner address)
  | _ => True

def RoomAction.isLogin : RoomAction → Bool
  | .login _ _ _ => true
  | _ => false

def LoginPlace.CallbacksSet (address : Nat) (object : RoomObject) : LoginPlace → Prop
  | .emptyCallback current _ => address ≠ current →
      object.emptyCallback = true ∧ object.nonemptyCallback = true
  | .nonemptyCallback current _ =>
      object.emptyCallback = true ∧ (address ≠ current → object.nonemptyCallback = true)
  | .rollBack _ => True
  | _ => object.emptyCallback = true ∧ object.nonemptyCallback = true

namespace SharedRooms

def Registered (shared : SharedRooms) (address : Nat) : Prop :=
  address < shared.size ∧
    shared.rooms (shared.objects address).kind (shared.objects address).userId = some address

def Consistent (shared : SharedRooms) : Prop :=
  ∀ kind userId address, shared.rooms kind userId = some address →
    address < shared.size ∧ (shared.objects address).kind = kind ∧
      (shared.objects address).userId = userId

theorem Consistent.registered {shared : SharedRooms} (consistent : shared.Consistent)
    {kind : Kind} {userId : UserId} {address : Nat}
    (found : shared.rooms kind userId = some address) : shared.Registered address := by
  obtain ⟨bound, isKind, isUser⟩ := consistent kind userId address found
  exact ⟨bound, by rw [isKind, isUser, found]⟩

structure SameRoom (address : Nat) (before after : SharedRooms) : Prop where
  kind : (after.objects address).kind = (before.objects address).kind
  userId : (after.objects address).userId = (before.objects address).userId
  owner : after.owner address = before.owner address
  empty : (before.objects address).emptyCallback = true →
    (after.objects address).emptyCallback = true
  nonempty : (before.objects address).nonemptyCallback = true →
    (after.objects address).nonemptyCallback = true

theorem SameRoom.of_objects {before after : SharedRooms} (same : after.objects = before.objects)
    (address : Nat) : SameRoom address before after := by
  refine ⟨?_, ?_, ?_, ?_, ?_⟩
  · rw [same]
  · rw [same]
  · rw [SharedRooms.owner, same]
    rfl
  · rw [same]
    exact id
  · rw [same]
    exact id

/-- No room that was there is registered again, and nobody loses what a login gave it. -/
structure Grows (before after : SharedRooms) : Prop where
  size : before.size ≤ after.size
  rooms : ∀ address < before.size, SameRoom address before after
  registered : ∀ address < before.size, after.Registered address → before.Registered address
  user : ∀ con userId, (before.connections con).user = some userId →
    (after.connections con).user = some userId
  key : ∀ con, (before.connections con).secondCryptology = true →
    (after.connections con).secondCryptology = true
  unusable : after.unusable = [] → before.unusable = []

/-- Nothing of a connection's login is done. -/
structure Aside (con : ConnectionId) (before after : SharedRooms) : Prop where
  user : (after.connections con).user = (before.connections con).user
  key : (after.connections con).secondCryptology = (before.connections con).secondCryptology
  rooms : ∀ address, after.Registered address → after.owner address = con →
    address < before.size

theorem Grows.refl (shared : SharedRooms) : Grows shared shared :=
  ⟨Nat.le_refl _, fun address _ => .of_objects rfl address, fun _ _ => id,
    fun _ _ => id, fun _ => id, id⟩

theorem Aside.refl (con : ConnectionId) (shared : SharedRooms) : Aside con shared shared :=
  ⟨rfl, rfl, fun _ registered _ => registered.1⟩

theorem Grows.usable {before after : SharedRooms} (grows : Grows before after) {address : Nat}
    (bound : address < before.size) (usable : before.Usable address) : after.Usable address := by
  obtain ⟨kind, userId, owner, empty, nonempty⟩ := grows.rooms address bound
  obtain ⟨user, key, callbacks⟩ := usable
  refine ⟨?_, ?_, fun screen => ?_⟩
  · rw [owner, userId]
    exact grows.user _ _ user
  · rw [owner]
    exact grows.key _ key
  · rw [kind] at screen
    exact ⟨empty (callbacks screen).1, nonempty (callbacks screen).2⟩

structure Sideways (before after : SharedRooms) : Prop where
  grows : Grows before after
  aside : ∀ con, Aside con before after
  consistent : before.Consistent → after.Consistent

theorem Sideways.of_same {before after : SharedRooms} (size : after.size = before.size)
    (objects : ∀ address, SameRoom address before after)
    (rooms : ∀ kind userId address, after.rooms kind userId = some address →
      before.rooms kind userId = some address)
    (users : ∀ con, (after.connections con).user = (before.connections con).user ∧
      (after.connections con).secondCryptology = (before.connections con).secondCryptology)
    (unusable : after.unusable = [] → before.unusable = []) : Sideways before after := by
  refine ⟨⟨Nat.le_of_eq size.symm, fun address _ => objects address,
    fun address bound registered => ?_, fun con userId bound => ?_, fun con key => ?_,
    unusable⟩, fun con => ⟨(users con).1, (users con).2, fun address registered _ => ?_⟩,
    fun consistent kind userId address found => ?_⟩
  · refine ⟨bound, rooms _ _ _ ?_⟩
    have found := registered.2
    rwa [(objects address).kind, (objects address).userId] at found
  · rw [(users con).1, bound]
  · rw [(users con).2, key]
  · exact size ▸ registered.1
  · rw [size, (objects address).kind, (objects address).userId]
    exact consistent kind userId address (rooms kind userId address found)

theorem sameRoom_setObject {shared : SharedRooms} {current : Nat} (object : RoomObject)
    (kind : object.kind = (shared.objects current).kind)
    (userId : object.userId = (shared.objects current).userId)
    (owner : object.room.owner = shared.owner current)
    (empty : (shared.objects current).emptyCallback = true → object.emptyCallback = true)
    (nonempty : (shared.objects current).nonemptyCallback = true →
      object.nonemptyCallback = true) (address : Nat) :
    SameRoom address shared (shared.setObject current object) := by
  by_cases same : address = current
  · subst same
    have now : (shared.setObject address object).objects address = object :=
      Function.update_self _ _ _
    exact ⟨by rw [now, kind], by rw [now, userId], by rw [SharedRooms.owner, now, owner],
      by rw [now]; exact empty, by rw [now]; exact nonempty⟩
  · have now : (shared.setObject current object).objects address = shared.objects address :=
      Function.update_of_ne same _ _
    exact ⟨by rw [now], by rw [now], by rw [SharedRooms.owner, now]; rfl, by rw [now]; exact id,
      by rw [now]; exact id⟩

theorem enableAutoPublish_eq (shared : SharedRooms) (address : Nat) (callback : Bool) :
    ∃ fault missed,
      shared.enableAutoPublish address callback =
        { shared with fault := fault, missed := missed } := by
  rw [enableAutoPublish]
  split
  · exact ⟨_, _, rfl⟩
  · split
    · rw [encrypt]
      split
      · exact ⟨_, _, rfl⟩
      · exact ⟨_, _, rfl⟩
    · exact ⟨_, _, rfl⟩

def ChangesViewers (address : Nat) (before after : SharedRooms) : Prop :=
  ∃ room fault missed, room.owner = before.owner address ∧
    after = { before.setObject address { before.objects address with room := room } with
      fault := fault, missed := missed }

theorem ChangesViewers.sideways {address : Nat} {before after : SharedRooms}
    (changes : ChangesViewers address before after) : Sideways before after := by
  obtain ⟨room, fault, missed, owner, rfl⟩ := changes
  refine .of_same rfl (fun other => ?_) (fun _ _ _ => id) (fun _ => ⟨rfl, rfl⟩) id
  have same : SameRoom other before
      (before.setObject address { before.objects address with room := room }) :=
    sameRoom_setObject { before.objects address with room := room } rfl rfl owner id id other
  exact ⟨same.kind, same.userId, same.owner, same.empty, same.nonempty⟩

theorem Room.addViewer_owner (room : Room) (kind : Kind)
    (userIdOf : ConnectionId → Option UserId) (src : ConnectionId) (terminalId : String) :
    (room.addViewer kind userIdOf src terminalId).2.owner = room.owner := by
  rcases room.addViewer_cases kind userIdOf src terminalId with added | kept
  · rw [added]
  · rw [kept]

theorem addViewer_changes (shared : SharedRooms) (address : Nat) (src : ConnectionId)
    (terminalId : String) :
    ChangesViewers address shared (shared.addViewer address src terminalId).1 := by
  have owner := Room.addViewer_owner (shared.objects address).room (shared.objects address).kind
    (fun con => (shared.connections con).user) src terminalId
  simp only [addViewer]
  split
  · obtain ⟨fault, missed, published⟩ := enableAutoPublish_eq
      (shared.setObject address { shared.objects address with
        room := ((shared.objects address).room.addViewer (shared.objects address).kind
          (fun con => (shared.connections con).user) src terminalId).2 })
      address (shared.objects address).nonemptyCallback
    exact ⟨_, fault, missed, owner, published⟩
  · exact ⟨_, shared.fault, shared.missed, owner, rfl⟩

theorem removeViewer_changes (shared : SharedRooms) (address : Nat) (con : ConnectionId) :
    ChangesViewers address shared (shared.removeViewer address con) := by
  simp only [removeViewer]
  split
  · split
    · refine ⟨_, shared.fault, shared.missed, ?_, rfl⟩
      rfl
    · rw [encrypt]
      split
      · refine ⟨_, shared.fault, shared.missed, ?_, rfl⟩
        rfl
      · refine ⟨_, _, shared.missed, ?_, rfl⟩
        rfl
  · split
    · obtain ⟨fault, missed, published⟩ := enableAutoPublish_eq
        (shared.setObject address { shared.objects address with
          room := SharingRoom.removeViewer (shared.objects address).room con })
        address (shared.objects address).emptyCallback
      refine ⟨_, fault, missed, ?_, published⟩
      rfl
    · refine ⟨_, shared.fault, shared.missed, ?_, rfl⟩
      rfl

theorem perform_sideways (thread : ConnectionId) (shared : SharedRooms) {action : RoomAction}
    (beside : action.isLogin = false) : Sideways shared (shared.perform thread action).1 := by
  have kept : ∀ con, (shared.connections con).user = (shared.connections con).user ∧
      (shared.connections con).secondCryptology = (shared.connections con).secondCryptology :=
    fun _ => ⟨rfl, rfl⟩
  cases action with
  | login userId role place => contradiction
  | removeRoom kind userId =>
      simp only [perform]
      split
      · exact .of_same rfl (.of_objects rfl) (fun _ _ _ => id) kept id
      · refine .of_same rfl (.of_objects rfl) (fun other id address found => ?_) kept id
        have left : (if other = kind ∧ id = userId then none else shared.rooms other id) =
          some address := found
        split at left
        · contradiction
        · exact left
  | getViewers address => exact .of_same rfl (.of_objects rfl) (fun _ _ _ => id) kept id
  | disconnect con =>
      refine .of_same rfl (.of_objects rfl) (fun _ _ _ => id) (fun other => ?_) id
      by_cases isOther : other = con
      · subst isOther
        simp [perform, setConnection]
      · simp [perform, setConnection, isOther]
  | getRoom kind userId use =>
      simp only [perform]
      split
      · split
        · exact .of_same rfl (.of_objects rfl) (fun _ _ _ => id) kept id
        · exact .of_same rfl (.of_objects rfl) (fun _ _ _ => id) kept id
      · refine .of_same rfl (.of_objects rfl) (fun _ _ _ => id) kept fun none => ?_
        simp only at none
        split at none
        · exact none
        · contradiction
  | use address use =>
      cases use with
      | forward encrypted =>
          simp only [perform, encrypt]
          split
          · split
            · exact .of_same rfl (.of_objects rfl) (fun _ _ _ => id) kept id
            · exact .of_same rfl (.of_objects rfl) (fun _ _ _ => id) kept id
          · exact .of_same rfl (.of_objects rfl) (fun _ _ _ => id) kept id
      | addViewer src terminalId =>
          exact (addViewer_changes shared address src terminalId).sideways
      | removeViewer con => exact (removeViewer_changes shared address con).sideways
  | feedback src => exact .of_same rfl (.of_objects rfl) (fun _ _ _ => id) kept id

structure LoginFits (shared : SharedRooms) (con : ConnectionId) (userId : UserId)
    (place : LoginPlace) : Prop where
  user : (shared.connections con).user = if place = .setSecondCryptology then some userId else none
  key : (shared.connections con).secondCryptology = false
  own : ∀ address, shared.Registered address → shared.owner address = con →
    (shared.objects address).userId = userId
  callbacks : ∀ address, shared.Registered address → shared.owner address = con →
    (shared.objects address).kind = .screen →
      place.CallbacksSet address (shared.objects address)
  rest : ∀ kinds, place = .rollBack kinds → ∀ address, shared.Registered address →
    shared.owner address = con → (shared.objects address).kind ∈ kinds

theorem LoginFits.unusable {shared : SharedRooms} {address : Nat} {userId : UserId}
    {place : LoginPlace} (fits : shared.LoginFits (shared.owner address) userId place) :
    ¬ shared.Usable address := by
  intro usable
  have key := usable.2.1
  rw [fits.key] at key
  contradiction

theorem LoginFits.aside {before after : SharedRooms} {con : ConnectionId} {userId : UserId}
    {place : LoginPlace} (fits : before.LoginFits con userId place) (grows : Grows before after)
    (aside : Aside con before after) : after.LoginFits con userId place := by
  have old : ∀ address, after.Registered address → after.owner address = con →
      SameRoom address before after ∧ before.Registered address ∧ before.owner address = con := by
    intro address registered isOwner
    have bound := aside.rooms address registered isOwner
    have same := grows.rooms address bound
    exact ⟨same, grows.registered address bound registered, same.owner.symm.trans isOwner⟩
  refine ⟨aside.user.trans fits.user, aside.key.trans fits.key, ?_, ?_, ?_⟩
  · intro address registered isOwner
    obtain ⟨same, was, wasOwner⟩ := old address registered isOwner
    exact same.userId.trans (fits.own address was wasOwner)
  · intro address registered isOwner screen
    obtain ⟨same, was, wasOwner⟩ := old address registered isOwner
    have callbacks := fits.callbacks address was wasOwner (same.kind.symm.trans screen)
    cases place with
    | emptyCallback current kinds =>
        intro different
        exact ⟨same.empty (callbacks different).1, same.nonempty (callbacks different).2⟩
    | nonemptyCallback current kinds =>
        exact ⟨same.empty callbacks.1, fun different => same.nonempty (callbacks.2 different)⟩
    | rollBack kinds => trivial
    | _ => exact ⟨same.empty callbacks.1, same.nonempty callbacks.2⟩
  · intro kinds rolls address registered isOwner
    obtain ⟨same, was, wasOwner⟩ := old address registered isOwner
    rw [same.kind]
    exact fits.rest kinds rolls address was wasOwner

structure LoginTurns (con : ConnectionId) (userId : UserId) (before : SharedRooms)
    (result : SharedRooms × List RoomAction) : Prop where
  grows : Grows before result.1
  aside : ∀ other, other ≠ con → Aside other before result.1
  consistent : result.1.Consistent
  quiet : result.1.unusable = before.unusable ∧ result.1.missed = before.missed ∧
    result.1.fault = before.fault
  first : ∀ action ∈ result.2.dropLast, action.isLogin = false
  fits : ∀ id role place, .login id role place ∈ result.2 → result.1.LoginFits con id place
  noUse : ∀ address use, .use address use ∉ result.2
  keyed : (result.1.connections con).secondCryptology = true →
    (result.1.connections con).user ≠ none
  ends : (∃ id role place, .login id role place ∈ result.2) ∨
    ∀ address, result.1.Registered address → result.1.owner address = con →
      result.1.Usable address

variable {shared : SharedRooms} {con : ConnectionId} {userId : UserId} {role : UInt32}

theorem LoginTurns.goesOn {after : SharedRooms} {place : LoginPlace}
    (grows : Grows shared after) (aside : ∀ other, other ≠ con → Aside other shared after)
    (consistent : after.Consistent)
    (quiet : after.unusable = shared.unusable ∧ after.missed = shared.missed ∧
      after.fault = shared.fault)
    (fits : after.LoginFits con userId place) :
    LoginTurns con userId shared (after, [.login userId role place]) := by
  refine ⟨grows, aside, consistent, quiet, by simp, fun id other next member => ?_, by simp,
    fun key => ?_, .inl ⟨userId, role, place, List.mem_singleton.mpr rfl⟩⟩
  · cases List.mem_singleton.mp member
    exact fits
  · rw [fits.key] at key
    contradiction

theorem LoginTurns.stays {place : LoginPlace} (consistent : shared.Consistent)
    (fits : shared.LoginFits con userId place) :
    LoginTurns con userId shared (shared, [.login userId role place]) :=
  .goesOn (.refl shared) (fun other _ => .refl other shared)
    consistent ⟨rfl, rfl, rfl⟩ fits

theorem insertRoom_new (kind : Kind) :
    (shared.insertRoom kind userId con).objects shared.size =
      { kind := kind, userId := userId, room := { owner := con } } :=
  Function.update_self _ _ _

theorem insertRoom_old (kind : Kind) {address : Nat} (bound : address < shared.size) :
    (shared.insertRoom kind userId con).objects address = shared.objects address :=
  Function.update_of_ne (Nat.ne_of_lt bound) _ _

theorem insertRoom_registered {kind : Kind} {address : Nat}
    (registered : (shared.insertRoom kind userId con).Registered address) :
    address = shared.size ∨ shared.Registered address := by
  by_cases new : address = shared.size
  · exact .inl new
  · have bound : address < shared.size :=
      Nat.lt_of_le_of_ne (Nat.le_of_lt_succ registered.1) new
    refine .inr ⟨bound, ?_⟩
    have found := registered.2
    rw [insertRoom_old kind bound] at found
    have chosen : (if (shared.objects address).kind = kind ∧
      (shared.objects address).userId = userId then some shared.size
      else shared.rooms (shared.objects address).kind (shared.objects address).userId) =
      some address := found
    split at chosen
    · cases chosen
      exact absurd rfl new
    · exact chosen

theorem insertRoom_grows (kind : Kind) : Grows shared (shared.insertRoom kind userId con) := by
  refine ⟨Nat.le_succ _, fun address bound => ?_, fun address bound registered => ?_,
    fun _ _ => id, fun _ => id, id⟩
  · have same : (shared.insertRoom kind userId con).objects address = shared.objects address :=
      insertRoom_old kind bound
    exact ⟨by rw [same], by rw [same], by rw [owner, same]; rfl, by rw [same]; exact id,
      by rw [same]; exact id⟩
  · exact (insertRoom_registered registered).resolve_left (Nat.ne_of_lt bound)

theorem insertRoom_aside (kind : Kind) {other : ConnectionId} (different : other ≠ con) :
    Aside other shared (shared.insertRoom kind userId con) := by
  refine ⟨rfl, rfl, fun address registered isOwner => ?_⟩
  rcases insertRoom_registered registered with new | old
  · subst new
    rw [owner, insertRoom_new] at isOwner
    exact absurd isOwner.symm different
  · exact old.1

theorem insertRoom_consistent (kind : Kind) (consistent : shared.Consistent) :
    (shared.insertRoom kind userId con).Consistent := by
  intro other id address found
  have chosen : (if other = kind ∧ id = userId then some shared.size
    else shared.rooms other id) = some address := found
  split at chosen
  · rename_i same
    cases chosen
    rw [insertRoom_new]
    exact ⟨Nat.lt_succ_self _, same.1.symm, same.2.symm⟩
  · obtain ⟨bound, isKind, isUser⟩ := consistent other id address chosen
    rw [insertRoom_old kind bound]
    exact ⟨Nat.lt_succ_of_lt bound, isKind, isUser⟩

theorem createRoom_turns {kind : Kind} {kinds : List Kind} (consistent : shared.Consistent)
    (fits : shared.LoginFits con userId (.createRoom (kind :: kinds))) :
    LoginTurns con userId shared
      (shared.insertRoom kind userId con,
        if kind = .screen then [.login userId role (.emptyCallback shared.size kinds)]
        else [.login userId role (.createRoom kinds)]) := by
  have fresh : ∀ place : LoginPlace, place ≠ .setSecondCryptology →
      (∀ rest, place ≠ .rollBack rest) →
      (∀ address, (shared.insertRoom kind userId con).Registered address →
        (shared.insertRoom kind userId con).owner address = con →
        ((shared.insertRoom kind userId con).objects address).kind = .screen →
        place.CallbacksSet address ((shared.insertRoom kind userId con).objects address)) →
      (shared.insertRoom kind userId con).LoginFits con userId place := by
    intro place notBound notRolling callbacks
    refine ⟨?_, fits.key, fun address registered isOwner => ?_, callbacks,
      fun rest rolls => absurd rolls (notRolling rest)⟩
    · rw [if_neg notBound]
      exact fits.user
    · rcases insertRoom_registered registered with new | old
      · subst new
        rw [insertRoom_new]
      · rw [insertRoom_old kind old.1]
        rw [owner, insertRoom_old kind old.1] at isOwner
        exact fits.own address old isOwner
  have before : ∀ address, shared.Registered address →
      (shared.insertRoom kind userId con).owner address = con →
      ((shared.insertRoom kind userId con).objects address).kind = .screen →
      ((shared.insertRoom kind userId con).objects address).emptyCallback = true ∧
        ((shared.insertRoom kind userId con).objects address).nonemptyCallback = true := by
    intro address old isOwner screen
    rw [owner, insertRoom_old kind old.1] at isOwner
    rw [insertRoom_old kind old.1] at screen ⊢
    exact fits.callbacks address old isOwner screen
  split
  · refine .goesOn (insertRoom_grows kind) (fun _ => insertRoom_aside kind)
      (insertRoom_consistent kind consistent) ⟨rfl, rfl, rfl⟩ (fresh _ (by simp) (by simp) ?_)
    intro address registered isOwner screen different
    exact before address ((insertRoom_registered registered).resolve_left different) isOwner
      screen
  · rename_i noScreen
    refine .goesOn (insertRoom_grows kind) (fun _ => insertRoom_aside kind)
      (insertRoom_consistent kind consistent) ⟨rfl, rfl, rfl⟩ (fresh _ (by simp) (by simp) ?_)
    intro address registered isOwner screen
    rcases insertRoom_registered registered with new | old
    · subst new
      rw [insertRoom_new] at screen
      exact absurd screen noScreen
    · exact before address old isOwner screen

theorem LoginFits.moves {after : SharedRooms} {place next : LoginPlace}
    (fits : shared.LoginFits con userId place) (sideways : Sideways shared after)
    (unbound : place ≠ .setSecondCryptology ∧ next ≠ .setSecondCryptology)
    (callbacks : ∀ address, shared.Registered address → place.CallbacksSet address
      (shared.objects address) → next.CallbacksSet address (after.objects address))
    (rest : ∀ kinds, next = .rollBack kinds → ∀ address, after.Registered address →
      after.owner address = con → (after.objects address).kind ∈ kinds) :
    after.LoginFits con userId next := by
  have old : ∀ address, after.Registered address → after.owner address = con →
      SameRoom address shared after ∧ shared.Registered address ∧ shared.owner address = con := by
    intro address registered isOwner
    have bound := (sideways.aside con).rooms address registered isOwner
    have same := sideways.grows.rooms address bound
    exact ⟨same, sideways.grows.registered address bound registered,
      same.owner.symm.trans isOwner⟩
  refine ⟨?_, (sideways.aside con).key.trans fits.key, ?_, ?_, rest⟩
  · rw [(sideways.aside con).user, fits.user, if_neg unbound.1, if_neg unbound.2]
  · intro address registered isOwner
    obtain ⟨same, was, wasOwner⟩ := old address registered isOwner
    exact same.userId.trans (fits.own address was wasOwner)
  · intro address registered isOwner screen
    obtain ⟨same, was, wasOwner⟩ := old address registered isOwner
    exact callbacks address was (fits.callbacks address was wasOwner (same.kind.symm.trans screen))

theorem Sideways.refl (shared : SharedRooms) : Sideways shared shared :=
  ⟨.refl shared, fun con => .refl con shared, id⟩

theorem emptyCallback_turns {current : Nat} {kinds : List Kind} (consistent : shared.Consistent)
    (fits : shared.LoginFits con userId (.emptyCallback current kinds)) :
    LoginTurns con userId shared (shared.login con userId role (.emptyCallback current kinds)) := by
  have sideways : Sideways shared (shared.setObject current
      { shared.objects current with emptyCallback := true }) :=
    .of_same rfl (sameRoom_setObject _ rfl rfl rfl (fun _ => rfl) id) (fun _ _ _ => id)
      (fun _ => ⟨rfl, rfl⟩) id
  refine .goesOn sideways.grows (fun other _ => sideways.aside other)
    (sideways.consistent consistent) ⟨rfl, rfl, rfl⟩
    (fits.moves sideways ⟨by simp, by simp⟩ (fun address registered isSet => ?_) (by simp))
  by_cases same : address = current
  · subst same
    refine ⟨?_, fun different => absurd rfl different⟩
    simp [setObject]
  · refine ⟨?_, fun _ => ?_⟩
    · simpa [setObject, same] using (isSet same).1
    · simpa [setObject, same] using (isSet same).2

theorem nonemptyCallback_turns {current : Nat} {kinds : List Kind}
    (consistent : shared.Consistent)
    (fits : shared.LoginFits con userId (.nonemptyCallback current kinds)) :
    LoginTurns con userId shared
      (shared.login con userId role (.nonemptyCallback current kinds)) := by
  have sideways : Sideways shared (shared.setObject current
      { shared.objects current with nonemptyCallback := true }) :=
    .of_same rfl (sameRoom_setObject _ rfl rfl rfl id (fun _ => rfl)) (fun _ _ _ => id)
      (fun _ => ⟨rfl, rfl⟩) id
  refine .goesOn sideways.grows (fun other _ => sideways.aside other)
    (sideways.consistent consistent) ⟨rfl, rfl, rfl⟩
    (fits.moves sideways ⟨by simp, by simp⟩ (fun address registered isSet => ?_) (by simp))
  by_cases same : address = current
  · subst same
    refine ⟨?_, ?_⟩
    · simpa [setObject] using isSet.1
    · simp [setObject]
  · refine ⟨?_, ?_⟩
    · simpa [setObject, same] using isSet.1
    · simpa [setObject, same] using isSet.2 same

theorem setConnection_self (connection : RoomConnection) :
    (shared.setConnection con connection).connections con = connection :=
  Function.update_self _ _ _

theorem setConnection_other (connection : RoomConnection) {other : ConnectionId}
    (different : other ≠ con) :
    (shared.setConnection con connection).connections other = shared.connections other :=
  Function.update_of_ne different _ _

theorem setConnection_grows (connection : RoomConnection)
    (user : ∀ id, (shared.connections con).user = some id → connection.user = some id)
    (key : (shared.connections con).secondCryptology = true →
      connection.secondCryptology = true) :
    Grows shared (shared.setConnection con connection) ∧
      ∀ other, other ≠ con → Aside other shared (shared.setConnection con connection) := by
  refine ⟨⟨Nat.le_refl _, fun address _ => ⟨rfl, rfl, rfl, id, id⟩, fun _ _ => id,
    fun other id bound => ?_, fun other isSet => ?_, id⟩, fun other different => ?_⟩
  · by_cases same : other = con
    · subst same
      rw [setConnection_self]
      exact user id bound
    · rw [setConnection_other connection same]
      exact bound
  · by_cases same : other = con
    · subst same
      rw [setConnection_self]
      exact key isSet
    · rw [setConnection_other connection same]
      exact isSet
  · have kept := @setConnection_other shared con connection other different
    exact ⟨by rw [kept], by rw [kept], fun _ registered _ => registered.1⟩

theorem bindUser_turns (consistent : shared.Consistent)
    (fits : shared.LoginFits con userId .bindUser) :
    LoginTurns con userId shared (shared.login con userId role .bindUser) := by
  obtain ⟨grows, aside⟩ := @setConnection_grows shared con
    { shared.connections con with user := some userId, role := role }
    (fun id bound => by
      rw [fits.user] at bound
      contradiction) id
  refine .goesOn grows aside consistent ⟨rfl, rfl, rfl⟩ ⟨?_, ?_, fits.own, fits.callbacks, ?_⟩
  · rw [setConnection_self]
    rfl
  · rw [setConnection_self]
    exact fits.key
  · simp

theorem setSecondCryptology_turns (consistent : shared.Consistent)
    (fits : shared.LoginFits con userId .setSecondCryptology) :
    LoginTurns con userId shared (shared.login con userId role .setSecondCryptology) := by
  obtain ⟨grows, aside⟩ := @setConnection_grows shared con
    { shared.connections con with secondCryptology := true } (fun _ => id) (fun _ => rfl)
  have bound : ((shared.setConnection con { shared.connections con with
      secondCryptology := true }).connections con).user = some userId := by
    rw [setConnection_self]
    exact fits.user
  refine ⟨grows, aside, consistent, ⟨rfl, rfl, rfl⟩, by simp [login], by simp [login],
    by simp [login], fun _ unbound => ?_, .inr fun address registered isOwner => ?_⟩
  · have never := bound.symm.trans unbound
    contradiction
  have isOwner : shared.owner address = con := isOwner
  refine ⟨?_, ?_, fits.callbacks address registered isOwner⟩
  · show ((shared.setConnection con { shared.connections con with
      secondCryptology := true }).connections (shared.owner address)).user = _
    rw [isOwner, setConnection_self]
    exact fits.user.trans (congrArg some (fits.own address registered isOwner).symm)
  · show ((shared.setConnection con { shared.connections con with
      secondCryptology := true }).connections (shared.owner address)).secondCryptology = _
    rw [isOwner, setConnection_self]

theorem rollBack_turns {kinds : List Kind} (consistent : shared.Consistent)
    (fits : shared.LoginFits con userId (.rollBack kinds)) :
    LoginTurns con userId shared (shared.login con userId role (.rollBack kinds)) := by
  cases kinds with
  | nil =>
      refine ⟨.refl shared, fun other _ => .refl other shared, consistent, ⟨rfl, rfl, rfl⟩,
        by simp [login], by simp [login], by simp [login], fun key => ?_,
        .inr fun address registered isOwner => ?_⟩
      · have noKey : (shared.connections con).secondCryptology = true := key
        rw [fits.key] at noKey
        contradiction
      · exact absurd (fits.rest [] rfl address registered isOwner) List.not_mem_nil
  | cons kind kinds =>
      simp only [login]
      split
      · rename_i absent
        refine .stays consistent (fits.moves (.refl shared) ⟨by simp, by simp⟩
          (fun _ _ _ => trivial) fun left isLeft address registered isOwner => ?_)
        cases isLeft
        refine (List.mem_cons.mp (fits.rest _ rfl address registered isOwner)).resolve_left
          fun isKind => ?_
        have found := registered.2
        rw [isKind, fits.own address registered isOwner, absent] at found
        contradiction
      · rename_i current found
        have sideways : Sideways shared (shared.setRoom kind userId none) := by
          refine .of_same rfl (.of_objects rfl) (fun other id address left => ?_)
            (fun _ => ⟨rfl, rfl⟩) id
          have chosen : (if other = kind ∧ id = userId then none else shared.rooms other id) =
            some address := left
          split at chosen
          · contradiction
          · exact chosen
        have next : (shared.setRoom kind userId none).LoginFits con userId (.rollBack kinds) := by
          refine fits.moves sideways ⟨by simp, by simp⟩ (fun _ _ _ => trivial)
            fun left isLeft address registered isOwner => ?_
          cases isLeft
          have was := sideways.grows.registered address registered.1 registered
          refine (List.mem_cons.mp (fits.rest _ rfl address was isOwner)).resolve_left
            fun isKind => ?_
          have gone : (if (shared.objects address).kind = kind ∧
            (shared.objects address).userId = userId then none
            else shared.rooms (shared.objects address).kind (shared.objects address).userId) =
            some address := registered.2
          rw [if_pos ⟨isKind, fits.own address was isOwner⟩] at gone
          contradiction
        refine ⟨sideways.grows, fun other _ => sideways.aside other,
          sideways.consistent consistent, ⟨rfl, rfl, rfl⟩, by simp [RoomAction.isLogin], ?_,
          by simp, fun key => ?_, .inl ⟨userId, role, .rollBack kinds, by simp⟩⟩
        · intro id other place member
          have same : RoomAction.login id other place = .login userId role (.rollBack kinds) := by
            simpa using member
          cases same
          exact next
        · have noKey : (shared.connections con).secondCryptology = true := key
          rw [fits.key] at noKey
          contradiction

theorem login_turns {place : LoginPlace} (consistent : shared.Consistent)
    (fits : shared.LoginFits con userId place) :
    LoginTurns con userId shared (shared.login con userId role place) := by
  cases place with
  | createRoom kinds =>
      cases kinds with
      | nil =>
          exact .stays consistent (fits.moves (.refl shared) ⟨by simp, by simp⟩
            (fun _ _ isSet => isSet) (by simp))
      | cons kind kinds =>
          simp only [login]
          split
          · split
            · exact .stays consistent (fits.moves (.refl shared) ⟨by simp, by simp⟩
                (fun _ _ _ => trivial) fun left isLeft address _ _ => by
                  cases isLeft
                  exact Kind.mem_all _)
            · exact createRoom_turns consistent fits
          · exact .stays consistent (fits.moves (.refl shared) ⟨by simp, by simp⟩
              (fun _ _ isSet => isSet) (by simp))
  | emptyCallback current kinds => exact emptyCallback_turns consistent fits
  | nonemptyCallback current kinds => exact nonemptyCallback_turns consistent fits
  | bindUser => exact bindUser_turns consistent fits
  | setSecondCryptology => exact setSecondCryptology_turns consistent fits
  | rollBack kinds => exact rollBack_turns consistent fits

theorem encrypt_keyed {address : Nat}
    (key : (shared.connections (shared.owner address)).secondCryptology = true) :
    shared.encrypt address = shared := by
  rw [encrypt, if_pos key]

theorem enableAutoPublish_usable {address : Nat} {room : Room} {callback : Bool}
    (usable : shared.Usable address) (owner : room.owner = shared.owner address)
    (isSet : (shared.objects address).kind = .screen → callback = true) :
    (shared.setObject address { shared.objects address with room := room }).enableAutoPublish
        address callback =
      shared.setObject address { shared.objects address with room := room } := by
  have now : (shared.setObject address { shared.objects address with room := room }).objects
      address = { shared.objects address with room := room } := Function.update_self _ _ _
  rw [enableAutoPublish, now]
  split
  · rfl
  · rename_i screen
    rw [if_pos (isSet (not_not.mp screen))]
    refine encrypt_keyed ?_
    rw [SharedRooms.owner, now, owner]
    exact usable.2.1

theorem use_quiet {address : Nat} (thread : ConnectionId) (use : RoomUse)
    (usable : shared.Usable address) :
    (shared.perform thread (.use address use)).1.unusable = shared.unusable ∧
      (shared.perform thread (.use address use)).1.missed = shared.missed ∧
      (shared.perform thread (.use address use)).1.fault = shared.fault := by
  cases use with
  | forward encrypted =>
      rw [perform, encrypt_keyed usable.2.1]
      split
      · exact ⟨rfl, rfl, rfl⟩
      · exact ⟨rfl, rfl, rfl⟩
  | addViewer src terminalId =>
      have owner := Room.addViewer_owner (shared.objects address).room
        (shared.objects address).kind (fun con => (shared.connections con).user) src terminalId
      simp only [perform, addViewer]
      rw [enableAutoPublish_usable usable owner fun screen => (usable.2.2 screen).2]
      split
      · exact ⟨rfl, rfl, rfl⟩
      · exact ⟨rfl, rfl, rfl⟩
  | removeViewer con =>
      simp only [perform, removeViewer]
      split
      · split
        · exact ⟨rfl, rfl, rfl⟩
        · rw [encrypt_keyed]
          · exact ⟨rfl, rfl, rfl⟩
          · have now : (shared.setObject address { shared.objects address with
                room := (TerminalSharingRoom.removeViewer (shared.objects address).room
                  con).2 }).objects address = { shared.objects address with
                room := (TerminalSharingRoom.removeViewer (shared.objects address).room
                  con).2 } := Function.update_self _ _ _
            rw [owner, now]
            exact usable.2.1
      · have kept : (SharingRoom.removeViewer (shared.objects address).room con).owner =
          shared.owner address := rfl
        rw [enableAutoPublish_usable usable kept fun screen => (usable.2.2 screen).1]
        split
        · exact ⟨rfl, rfl, rfl⟩
        · exact ⟨rfl, rfl, rfl⟩

end SharedRooms

def RoomEvent.thread : RoomEvent → Option ConnectionId
  | .login con _ _ => some con
  | .look thread _ _ _ => some thread
  | .respond con _ _ _ _ => some con
  | .clean con => some con
  | .advance thread => some thread
  | .setTargetUserId _ _ => none
  | .disconnect _ => none

inductive RoomMove (pool : RoomThreads) : RoomEvent → RoomThreads → Prop
  | login {con userId role place next} (unbound : (pool.shared.connections con).user = none)
      (first : place ≠ .setSecondCryptology)
      (started : pool.start con pool.shared [.login userId role place] = some next) :
      RoomMove pool (.login con userId role) next
  | update {event con connection} (inert : event.thread = none)
      (user : connection.user = (pool.shared.connections con).user)
      (key : connection.secondCryptology = (pool.shared.connections con).secondCryptology)
      (told : (pool.shared.connections con).disconnecting = true →
        connection.disconnecting = true) :
      RoomMove pool event { pool with shared := pool.shared.setConnection con connection }
  | getRoom {event thread kind userId use next} (isThread : event.thread = some thread)
      (notAdvance : event ≠ .advance thread) (enters : ∀ con, use ≠ .removeViewer con)
      (started : pool.start thread pool.shared [.getRoom kind userId use] = some next) :
      RoomMove pool event next
  | clean {con next} (started : pool.start con
        (pool.shared.setConnection con { pool.shared.connections con with cleaned := true })
        ((pool.shared.connections con).clean con) = some next) :
      RoomMove pool (.clean con) next
  | advance {thread next}
      (advanced : pool.advance (SharedRooms.perform thread) thread = some next) :
      RoomMove pool (.advance thread) next

theorem RoomMove.of_step {pool next : RoomThreads} {event : RoomEvent}
    (stepped : roomStep pool event = some next) : RoomMove pool event next := by
  rw [roomStep.eq_def] at stepped
  split at stepped
  · contradiction
  · cases event with
    | login con userId role =>
        simp only at stepped
        split at stepped
        · contradiction
        · rename_i free
          refine .login (by simpa using fun bound => free (.inl bound)) ?_ stepped
          split
          · simp
          · simp
    | setTargetUserId con userId =>
        simp only at stepped
        split at stepped
        · contradiction
        · cases stepped
          exact .update rfl rfl rfl id
    | look thread kind userId encrypted => exact .getRoom rfl (by simp) (by simp) stepped
    | respond con kind userId src terminalId => exact .getRoom rfl (by simp) (by simp) stepped
    | disconnect con =>
        cases stepped
        exact .update rfl rfl rfl fun _ => rfl
    | clean con =>
        simp only at stepped
        split at stepped
        · contradiction
        · exact .clean stepped
    | advance thread => exact .advance stepped

/-- No thread does more than one login, which is the last that it does. -/
structure RoomsSettled (pool : RoomThreads) : Prop where
  consistent : pool.shared.Consistent
  keyed : ∀ con, (pool.shared.connections con).secondCryptology = true →
    (pool.shared.connections con).user ≠ none
  last : ∀ thread, ∀ action ∈ (pool.pending thread).dropLast, action.isLogin = false
  logins : ∀ con id role place, .login id role place ∈ pool.pending con →
    pool.shared.LoginFits con id place
  rooms : ∀ address, pool.shared.Registered address →
    LoggingIn pool (pool.shared.owner address) ∨ pool.shared.Usable address
  uses : ∀ thread address use, .use address use ∈ pool.pending thread →
    address < pool.shared.size ∧ (pool.shared.unusable = [] → pool.shared.Usable address)

namespace RoomsSettled

variable {pool next : RoomThreads} {thread : ConnectionId}

open SharedRooms Threads.Pool

theorem sideways (settled : RoomsSettled pool) {after : SharedRooms}
    {actions : List RoomAction} (aside : Sideways pool.shared after)
    (waiting : ∀ action ∈ actions, action.isLogin = true → action ∈ pool.pending thread)
    (logins : ∀ id role place, .login id role place ∈ pool.pending thread →
      .login id role place ∈ actions)
    (last : ∀ action ∈ actions.dropLast, action.isLogin = false)
    (uses : ∀ address use, .use address use ∈ actions →
      .use address use ∈ pool.pending thread ∨
        (address < after.size ∧ (after.unusable = [] → after.Usable address))) :
    RoomsSettled { shared := after, pending := Function.update pool.pending thread actions } := by
  refine ⟨aside.consistent settled.consistent, fun con key => ?_, fun other action member => ?_,
    fun con id role place member => ?_, fun address registered => ?_,
    fun other address use member => ?_⟩
  · rw [(aside.aside con).user]
    exact settled.keyed con ((aside.aside con).key.symm.trans key)
  · simp only [Function.update_apply] at member
    split at member
    · exact last action member
    · exact settled.last other action member
  · have before : .login id role place ∈ pool.pending con := by
      rcases mem_update.mp member with ⟨same, new⟩ | ⟨_, old⟩
      · exact same ▸ waiting _ new rfl
      · exact old
    exact (settled.logins con id role place before).aside aside.grows (aside.aside con)
  · have bound := (aside.aside _).rooms address registered rfl
    have same := aside.grows.rooms address bound
    rcases settled.rooms address (aside.grows.registered address bound registered) with
      busy | usable
    · left
      show LoggingIn _ (after.owner address)
      rw [same.owner]
      obtain ⟨id, role, place, member⟩ := busy
      refine ⟨id, role, place, ?_⟩
      by_cases isThread : pool.shared.owner address = thread
      · exact mem_update.mpr (.inl ⟨isThread, logins id role place (isThread ▸ member)⟩)
      · exact mem_update.mpr (.inr ⟨isThread, member⟩)
    · exact .inr (aside.grows.usable bound usable)
  · have old : .use address use ∈ pool.pending other → address < after.size ∧
        (after.unusable = [] → after.Usable address) := by
      intro before
      obtain ⟨bound, usable⟩ := settled.uses other address use before
      exact ⟨Nat.lt_of_lt_of_le bound aside.grows.size, fun none =>
        aside.grows.usable bound (usable (aside.grows.unusable none))⟩
    rcases mem_update.mp member with ⟨rfl, new⟩ | ⟨_, before⟩
    · rcases uses address use new with before | now
      · exact old before
      · exact now
    · exact old before

theorem login (settled : RoomsSettled pool) {userId : UserId}
    {result : SharedRooms × List RoomAction}
    (only : ∀ action ∈ pool.pending thread, action.isLogin = true)
    (turns : LoginTurns thread userId pool.shared result) :
    RoomsSettled {
      shared := result.1
      pending := Function.update pool.pending thread result.2 } := by
  refine ⟨turns.consistent, fun con key => ?_, fun other action member => ?_,
    fun con id role place member => ?_, fun address registered => ?_,
    fun other address use member => ?_⟩
  · by_cases same : con = thread
    · subst same
      exact turns.keyed key
    · have aside := turns.aside con same
      rw [aside.user]
      exact settled.keyed con (aside.key.symm.trans key)
  · simp only [Function.update_apply] at member
    split at member
    · exact turns.first action member
    · exact settled.last other action member
  · rcases mem_update.mp member with ⟨rfl, new⟩ | ⟨different, old⟩
    · exact turns.fits id role place new
    · exact (settled.logins con id role place old).aside turns.grows (turns.aside con different)
  · by_cases same : result.1.owner address = thread
    · rcases turns.ends with ⟨id, role, place, member⟩ | usable
      · left
        show LoggingIn _ (result.1.owner address)
        rw [same]
        exact ⟨id, role, place, mem_update.mpr (.inl ⟨rfl, member⟩)⟩
      · exact .inr (usable address registered same)
    · have bound := (turns.aside _ same).rooms address registered rfl
      have kept := turns.grows.rooms address bound
      rcases settled.rooms address (turns.grows.registered address bound registered) with
        ⟨id, role, place, member⟩ | usable
      · left
        show LoggingIn _ (result.1.owner address)
        refine ⟨id, role, place, mem_update.mpr (.inr ⟨same, ?_⟩)⟩
        rw [kept.owner]
        exact member
      · exact .inr (turns.grows.usable bound usable)
  · rcases mem_update.mp member with ⟨rfl, new⟩ | ⟨_, old⟩
    · exact absurd new (turns.noUse address use)
    · obtain ⟨bound, usable⟩ := settled.uses other address use old
      exact ⟨Nat.lt_of_lt_of_le bound turns.grows.size, fun none =>
        turns.grows.usable bound (usable (turns.grows.unusable none))⟩

theorem perform_follows (thread : ConnectionId) {shared : SharedRooms}
    (consistent : shared.Consistent) {action : RoomAction} (beside : action.isLogin = false) :
    ∀ after ∈ (shared.perform thread action).2, after.isLogin = false ∧
      ∀ address use, after = .use address use →
        address < (shared.perform thread action).1.size ∧
          ((shared.perform thread action).1.unusable = [] →
            (shared.perform thread action).1.Usable address) := by
  intro after member
  cases action with
  | login userId role place => contradiction
  | removeRoom kind userId =>
      simp only [perform] at member
      split at member
      · contradiction
      · cases List.mem_singleton.mp member
        exact ⟨rfl, by simp⟩
  | getViewers address =>
      obtain ⟨viewer, _, rfl⟩ := List.mem_map.mp member
      exact ⟨rfl, by simp⟩
  | disconnect con => contradiction
  | getRoom kind userId use =>
      simp only [perform] at member ⊢
      split at member
      · contradiction
      · rename_i address found
        cases List.mem_singleton.mp member
        refine ⟨rfl, fun current other same => ?_⟩
        cases same
        refine ⟨(consistent kind userId address found).1, fun none => ?_⟩
        simp only at none
        split at none
        · assumption
        · contradiction
  | use address use =>
      cases use with
      | forward encrypted => contradiction
      | addViewer src terminalId =>
          simp only [perform, addViewer] at member
          split at member
          · cases List.mem_singleton.mp member
            exact ⟨rfl, by simp⟩
          · contradiction
      | removeViewer con => contradiction
  | feedback src => contradiction

theorem advance (settled : RoomsSettled pool)
    (advanced : pool.advance (SharedRooms.perform thread) thread = some next) :
    RoomsSettled next := by
  obtain ⟨action, rest, first, rfl⟩ := Threads.Pool.advance_eq_some.mp advanced
  have head : action ∈ pool.pending thread := Threads.Pool.first_mem first
  have tail : ∀ waiting ∈ rest, waiting ∈ pool.pending thread := by
    rw [first]
    exact fun waiting isWaiting => List.mem_cons_of_mem action isWaiting
  have noLogin : rest ≠ [] → action.isLogin = false := by
    intro more
    refine settled.last thread action ?_
    rw [first, List.dropLast_cons_of_ne_nil more]
    exact List.mem_cons_self
  cases isLogin : action.isLogin with
  | true =>
      have alone : rest = [] := by
        by_contra more
        rw [noLogin more] at isLogin
        contradiction
      cases action with
      | login userId role place =>
          rw [alone, List.append_nil]
          refine settled.login (fun other member => ?_)
            (login_turns settled.consistent (settled.logins thread userId role place head))
          rw [first, alone] at member
          cases List.mem_singleton.mp member
          rfl
      | _ => contradiction
  | false =>
      have follows := perform_follows thread settled.consistent isLogin
      refine settled.sideways (perform_sideways thread pool.shared isLogin) ?_ ?_ ?_ ?_
      · intro after member login
        rcases List.mem_append.mp member with new | old
        · rw [(follows after new).1] at login
          contradiction
        · exact tail after old
      · intro id role place member
        rw [first] at member
        rcases List.mem_cons.mp member with same | old
        · rw [← same] at isLogin
          contradiction
        · exact List.mem_append_right _ old
      · intro after member
        by_cases more : rest = []
        · rw [more, List.append_nil] at member
          exact (follows after (List.dropLast_subset _ member)).1
        · rw [List.dropLast_append_of_ne_nil more] at member
          rcases List.mem_append.mp member with new | old
          · exact (follows after new).1
          · refine settled.last thread after ?_
            rw [first, List.dropLast_cons_of_ne_nil more]
            exact List.mem_cons_of_mem _ old
      · intro address use member
        rcases List.mem_append.mp member with new | old
        · exact .inr ((follows _ new).2 address use rfl)
        · exact .inl (tail _ old)

theorem start {after : SharedRooms} {actions : List RoomAction} (settled : RoomsSettled pool)
    (aside : Sideways pool.shared after)
    (plain : ∀ action ∈ actions, action.isLogin = false ∧ ∀ address use, action ≠ .use address use)
    (started : pool.start thread after actions = some next) : RoomsSettled next := by
  obtain ⟨idle, rfl⟩ := Threads.Pool.start_eq_some.mp started
  refine settled.sideways aside ?_ ?_ ?_ ?_
  · intro action member login
    rw [(plain action member).1] at login
    contradiction
  · intro id role place member
    rw [idle] at member
    contradiction
  · exact fun action member => (plain action (List.dropLast_subset _ member)).1
  · exact fun address use member => absurd rfl ((plain _ member).2 address use)

theorem startLogin {userId : UserId} {role : UInt32} {place : LoginPlace}
    (settled : RoomsSettled pool)
    (unbound : (pool.shared.connections thread).user = none)
    (first : place ≠ .setSecondCryptology)
    (started : pool.start thread pool.shared [.login userId role place] = some next) :
    RoomsSettled next := by
  obtain ⟨idle, rfl⟩ := Threads.Pool.start_eq_some.mp started
  have noRoom : ∀ address, pool.shared.Registered address →
      pool.shared.owner address = thread → False := by
    intro address registered isOwner
    rcases settled.rooms address registered with ⟨id, other, current, member⟩ | usable
    · rw [isOwner, idle] at member
      contradiction
    · have bound := usable.1
      rw [isOwner, unbound] at bound
      contradiction
  have keyless : (pool.shared.connections thread).secondCryptology = false := by
    by_contra key
    exact settled.keyed thread (by simpa using key) unbound
  refine settled.login (fun action member => ?_) (@LoginTurns.stays pool.shared thread userId
    role place settled.consistent ⟨?_, keyless, ?_, ?_, ?_⟩)
  · rw [idle] at member
    contradiction
  · rw [if_neg first]
    exact unbound
  · exact fun address registered isOwner => (noRoom address registered isOwner).elim
  · exact fun address registered isOwner => (noRoom address registered isOwner).elim
  · exact fun _ _ address registered isOwner => (noRoom address registered isOwner).elim

theorem update (settled : RoomsSettled pool) {after : SharedRooms}
    (aside : Sideways pool.shared after) : RoomsSettled { pool with shared := after } := by
  have same : Function.update pool.pending 0 (pool.pending 0) = pool.pending :=
    Function.update_eq_self 0 pool.pending
  have updated := @sideways pool 0 settled after (pool.pending 0) aside
    (fun _ member _ => member) (fun _ _ _ => id) (settled.last 0) (fun _ _ => .inl)
  rwa [same] at updated

theorem setConnection_sideways {shared : SharedRooms} {con : ConnectionId}
    {connection : RoomConnection} (user : connection.user = (shared.connections con).user)
    (key : connection.secondCryptology = (shared.connections con).secondCryptology) :
    Sideways shared (shared.setConnection con connection) := by
  refine .of_same rfl (.of_objects rfl) (fun _ _ _ => id) (fun other => ?_) id
  by_cases same : other = con
  · subst same
    rw [setConnection_self]
    exact ⟨user, key⟩
  · rw [setConnection_other connection same]
    exact ⟨rfl, rfl⟩

theorem clean_plain (connection : RoomConnection) (con : ConnectionId) :
    ∀ action ∈ connection.clean con,
      action.isLogin = false ∧ ∀ address use, action ≠ .use address use := by
  intro action member
  rcases List.mem_append.mp member with leaves | last
  · split at leaves
    · contradiction
    · split at leaves
      · obtain ⟨kind, _, rfl⟩ := List.mem_map.mp leaves
        exact ⟨rfl, by simp⟩
      · split at leaves
        · split at leaves
          · contradiction
          · cases List.mem_singleton.mp leaves
            exact ⟨rfl, by simp⟩
        · contradiction
  · cases List.mem_singleton.mp last
    exact ⟨rfl, by simp⟩

theorem step {event : RoomEvent} (settled : RoomsSettled pool)
    (stepped : roomStep pool event = some next) : RoomsSettled next := by
  cases RoomMove.of_step stepped with
  | login unbound first started => exact settled.startLogin unbound first started
  | update inert user key told => exact settled.update (setConnection_sideways user key)
  | getRoom isThread notAdvance enters started =>
      exact settled.start (.refl pool.shared) (by simp [RoomAction.isLogin]) started
  | clean started =>
      refine settled.start ?_ (clean_plain _ _) started
      exact setConnection_sideways rfl rfl
  | advance advanced => exact settled.advance advanced

theorem usable_iff (settled : RoomsSettled pool) {address : Nat}
    (registered : pool.shared.Registered address) :
    pool.shared.Usable address ↔ ¬ LoggingIn pool (pool.shared.owner address) := by
  constructor
  · rintro usable ⟨id, role, place, member⟩
    exact (settled.logins _ id role place member).unusable usable
  · exact fun idle => (settled.rooms address registered).resolve_left idle

theorem usable_of_quiet {after : SharedRooms} {pending : Nat → List RoomAction}
    (usable : RoomsUsable pool) (unusable : after.unusable = pool.shared.unusable)
    (missed : after.missed = pool.shared.missed)
    (fault : after.fault = pool.shared.fault ∨ after.fault = some .assertion) :
    RoomsUsable { shared := after, pending := pending } := by
  refine ⟨unusable.trans usable.1, missed.trans usable.2.1, ?_⟩
  rcases fault with same | assertion
  · rw [same]
    exact usable.2.2
  · rw [assertion]
    decide

/-- A look-up gives out a usable room, or none, just when no owner of the room is logging in. -/
theorem getRoom_usable {kind : Kind} {userId : UserId} {use : RoomUse} {rest : List RoomAction}
    {pending : Nat → List RoomAction} (settled : RoomsSettled pool) (usable : RoomsUsable pool)
    (first : pool.pending thread = .getRoom kind userId use :: rest) :
    RoomsUsable {
      shared := (pool.shared.perform thread (.getRoom kind userId use)).1
      pending := pending } ↔ LooksUpSettled pool (.advance thread) := by
  cases found : pool.shared.rooms kind userId with
  | none =>
      refine ⟨fun _ _ _ _ _ _ again isFound => ?_, fun _ => ?_⟩
      · rw [first] at again
        cases again
        rw [found] at isFound
        contradiction
      · simp only [perform, found]
        split
        · exact usable_of_quiet usable rfl rfl (.inr rfl)
        · exact usable_of_quiet usable rfl rfl (.inl rfl)
  | some address =>
      have registered := settled.consistent.registered found
      constructor
      · intro after other id later waiting current again isFound
        rw [first] at again
        cases again
        cases found.symm.trans isFound
        rw [← settled.usable_iff registered]
        by_contra unusable
        have none := after.1
        simp only [perform, found, if_neg unusable] at none
        contradiction
      · intro late
        have isUsable := (settled.usable_iff registered).mpr
          (late kind userId use rest address first found)
        refine usable_of_quiet usable ?_ ?_ (.inl ?_)
        all_goals simp only [perform, found, if_pos isUsable]

theorem advance_usable (settled : RoomsSettled pool) (usable : RoomsUsable pool)
    (advanced : pool.advance (SharedRooms.perform thread) thread = some next) :
    RoomsUsable next ↔ LooksUpSettled pool (.advance thread) := by
  obtain ⟨action, rest, first, rfl⟩ := Threads.Pool.advance_eq_some.mp advanced
  have head : action ∈ pool.pending thread := first_mem first
  -- only a look-up can be too early
  have other : (∀ kind userId use, action ≠ .getRoom kind userId use) →
      LooksUpSettled pool (.advance thread) := by
    intro different kind userId use waiting address again
    rw [first] at again
    cases again
    exact absurd rfl (different kind userId use)
  cases action with
  | login userId role place =>
      obtain ⟨unusable, missed, fault⟩ :=
        (@login_turns pool.shared thread userId role place settled.consistent
          (settled.logins thread userId role place head)).quiet
      exact ⟨fun _ => other (by simp),
        fun _ => usable_of_quiet usable unusable missed (.inl fault)⟩
  | removeRoom kind userId =>
      refine ⟨fun _ => other (by simp), fun _ => ?_⟩
      simp only [perform]
      split
      · exact usable_of_quiet usable rfl rfl (.inr rfl)
      · exact usable_of_quiet usable rfl rfl (.inl rfl)
  | getViewers address =>
      exact ⟨fun _ => other (by simp), fun _ => usable_of_quiet usable rfl rfl (.inl rfl)⟩
  | disconnect con =>
      exact ⟨fun _ => other (by simp), fun _ => usable_of_quiet usable rfl rfl (.inl rfl)⟩
  | feedback src =>
      exact ⟨fun _ => other (by simp), fun _ => usable_of_quiet usable rfl rfl (.inl rfl)⟩
  | use address use =>
      obtain ⟨unusable, missed, fault⟩ := use_quiet thread use
        ((settled.uses thread address use head).2 usable.1)
      exact ⟨fun _ => other (by simp),
        fun _ => usable_of_quiet usable unusable missed (.inl fault)⟩
  | getRoom kind userId use => exact getRoom_usable settled usable first

theorem step_usable {event : RoomEvent} (settled : RoomsSettled pool) (usable : RoomsUsable pool)
    (stepped : roomStep pool event = some next) :
    RoomsUsable next ↔ LooksUpSettled pool event := by
  have beside : (∀ thread, event ≠ .advance thread) → LooksUpSettled pool event := by
    intro notAdvance
    cases event with
    | advance thread => exact absurd rfl (notAdvance thread)
    | _ => trivial
  cases RoomMove.of_step stepped with
  | login unbound first started =>
      obtain ⟨_, rfl⟩ := Threads.Pool.start_eq_some.mp started
      exact ⟨fun _ => trivial, fun _ => usable⟩
  | update inert user key told =>
      exact ⟨fun _ => beside (by rintro thread rfl; contradiction), fun _ => usable⟩
  | getRoom isThread notAdvance enters started =>
      obtain ⟨_, rfl⟩ := Threads.Pool.start_eq_some.mp started
      refine ⟨fun _ => beside ?_, fun _ => usable⟩
      rintro thread rfl
      cases isThread
      exact notAdvance rfl
  | clean started =>
      obtain ⟨_, rfl⟩ := Threads.Pool.start_eq_some.mp started
      exact ⟨fun _ => trivial, fun _ => usable⟩
  | advance advanced => exact settled.advance_usable usable advanced

end RoomsSettled

theorem initialRooms_settled : RoomsSettled initialRooms where
  consistent _ _ _ found := by contradiction
  keyed _ key := by contradiction
  last _ _ member := by contradiction
  logins _ _ _ _ member := by contradiction
  rooms _ registered := absurd registered.1 (Nat.not_lt_zero _)
  uses _ _ _ member := by contradiction

/-- In a run of any threads, every room that `getRoom` gives out is usable exactly if no room is
looked up while the login of its owner is under way. -/
theorem rooms_usable_iff (events : List RoomEvent) :
    Transition.Throughout roomStep RoomsUsable initialRooms events ↔
      Transition.Happening roomStep LooksUpSettled initialRooms events :=
  Transition.Throughout.iff_happening roomStep RoomsSettled
    (fun _ _ _ settled usable stepped => ⟨settled.step stepped, settled.step_usable usable stepped⟩)
    initialRooms_settled ⟨rfl, rfl, by simp [initialRooms]⟩

/-- A visit finds the screen room that a guard's login has just created: its request is
encrypted without a key. -/
theorem earlyVisit_unusable : ¬ Transition.Throughout roomStep RoomsUsable initialRooms
    [.login 1 7 Role.screenGuard, .advance 1, .look 2 .screen 7 true, .advance 2, .advance 2] := by
  intro usable
  have last := (usable.final roomStep rfl).2.2
  exact absurd rfl last

end EasyViewer
