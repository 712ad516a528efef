import EasyViewer.Library.Threads
import EasyViewer.LoginHandler

/-!
`RequestLogin::handle`, the clean-up, the visits and the relays under any number of threads,
cut where a room manager's lock or a room's mutex is given back. The requests of a connection
are handled by the thread of its number; its clean-up is the last of them.
-/

namespace EasyViewer

/-- A room with the callbacks that are set so far; `room.callbacks`, which stands for both, is
not used. -/
structure RoomObject where
  kind : Kind
  userId : UserId
  room : Room
  emptyCallback : Bool := false
  nonemptyCallback : Bool := false
  deriving DecidableEq, Repr

structure RoomConnection where
  user : Option UserId := none
  role : UInt32 := 0
  targetUserId : UserId := 0
  secondCryptology : Bool := false
  disconnecting : Bool := false
  cleaned : Bool := false
  deriving DecidableEq, Repr

/-- The managers with the room objects, by address, and the connections. The rooms that `getRoom`
gave out before they were usable, those whose callback was missing when it was due, and the
visitors that were answered with success are histories. -/
structure SharedRooms where
  rooms : Kind → UserId → Option Nat := fun _ _ => none
  objects : Nat → RoomObject :=
    fun _ => { kind := .screen, userId := 0, room := { owner := 0 } }
  size : Nat := 0
  connections : ConnectionId → RoomConnection := fun _ => {}
  fault : Option Fault := none
  unusable : List Nat := []
  missed : List Nat := []
  answered : List ConnectionId := []

/-- What a login does next, with the kinds of room that it has yet to create or roll back. -/
inductive LoginPlace where
  | createRoom (kinds : List Kind)
  | emptyCallback (address : Nat) (kinds : List Kind)
  | nonemptyCallback (address : Nat) (kinds : List Kind)
  | bindUser
  | setSecondCryptology
  | rollBack (kinds : List Kind)
  deriving DecidableEq, Repr

/-- What a room is looked up for: a message to its owner or, not encrypted for it, past it; a
visitor that the owner lets in; a visitor that is gone. -/
inductive RoomUse where
  | forward (encrypted : Bool)
  | addViewer (src : ConnectionId) (terminalId : String)
  | removeViewer (con : ConnectionId)
  deriving DecidableEq, Repr

inductive RoomAction where
  | login (userId : UserId) (role : UInt32) (place : LoginPlace)
  | removeRoom (kind : Kind) (userId : UserId)
  | getViewers (address : Nat)
  | disconnect (con : ConnectionId)
  | getRoom (kind : Kind) (userId : UserId) (use : RoomUse)
  | use (address : Nat) (use : RoomUse)
  | feedback (src : ConnectionId)
  deriving DecidableEq, Repr

namespace SharedRooms

def owner (shared : SharedRooms) (address : Nat) : ConnectionId :=
  (shared.objects address).room.owner

def setRoom (shared : SharedRooms) (kind : Kind) (userId : UserId) (room : Option Nat) :
    SharedRooms :=
  { shared with
    rooms := fun other id => if other = kind ∧ id = userId then room else shared.rooms other id }

def setObject (shared : SharedRooms) (address : Nat) (object : RoomObject) : SharedRooms :=
  { shared with objects := Function.update shared.objects address object }

def setConnection (shared : SharedRooms) (con : ConnectionId) (connection : RoomConnection) :
    SharedRooms :=
  { shared with connections := Function.update shared.connections con connection }

def insertRoom (shared : SharedRooms) (kind : Kind) (userId : UserId) (con : ConnectionId) :
    SharedRooms :=
  { (shared.setObject shared.size
      { kind := kind, userId := userId, room := { owner := con } }).setRoom kind userId
        (some shared.size) with
    size := shared.size + 1 }

/-- The owner is bound to the room's user and has its key, and a screen room has both
callbacks. -/
def Usable (shared : SharedRooms) (address : Nat) : Prop :=
  (shared.connections (shared.owner address)).user = some (shared.objects address).userId ∧
    (shared.connections (shared.owner address)).secondCryptology = true ∧
    ((shared.objects address).kind = .screen → (shared.objects address).emptyCallback = true ∧
      (shared.objects address).nonemptyCallback = true)

instance (shared : SharedRooms) (address : Nat) : Decidable (shared.Usable address) :=
  inferInstanceAs (Decidable (_ ∧ _ ∧ (_ → _)))

def encrypt (shared : SharedRooms) (address : Nat) : SharedRooms :=
  if (shared.connections (shared.owner address)).secondCryptology then shared
  else { shared with fault := some .nullPointer }

def enableAutoPublish (shared : SharedRooms) (address : Nat) (callback : Bool) : SharedRooms :=
  if (shared.objects address).kind ≠ .screen then shared
  else if callback then shared.encrypt address
  else { shared with missed := address :: shared.missed }

def login (shared : SharedRooms) (con : ConnectionId) (userId : UserId) (role : UInt32) :
    LoginPlace → SharedRooms × List RoomAction
  | .createRoom [] => (shared, [.login userId role .bindUser])
  | .createRoom (kind :: kinds) =>
      if Role.has role kind.flag then
        match shared.rooms kind userId with
        | some _ => (shared, [.login userId role (.rollBack Kind.all)])
        | none =>
            (shared.insertRoom kind userId con,
              if kind = .screen then [.login userId role (.emptyCallback shared.size kinds)]
              else [.login userId role (.createRoom kinds)])
      else (shared, [.login userId role (.createRoom kinds)])
  | .emptyCallback address kinds =>
      (shared.setObject address { shared.objects address with emptyCallback := true },
        [.login userId role (.nonemptyCallback address kinds)])
  | .nonemptyCallback address kinds =>
      (shared.setObject address { shared.objects address with nonemptyCallback := true },
        [.login userId role (.createRoom kinds)])
  | .bindUser =>
      (shared.setConnection con
        { shared.connections con with user := some userId, role := role },
        [.login userId role .setSecondCryptology])
  | .setSecondCryptology =>
      (shared.setConnection con { shared.connections con with secondCryptology := true }, [])
  | .rollBack [] => (shared, [])
  | .rollBack (kind :: kinds) =>
      match shared.rooms kind userId with
      | none => (shared, [.login userId role (.rollBack kinds)])
      | some address =>
          (shared.setRoom kind userId none,
            [.getViewers address, .login userId role (.rollBack kinds)])

/-- `addViewer` calls back inside the room's mutex. -/
def addViewer (shared : SharedRooms) (address : Nat) (src : ConnectionId) (terminalId : String) :
    SharedRooms × List RoomAction :=
  let object := shared.objects address
  let (added, room) := object.room.addViewer object.kind
    (fun con => (shared.connections con).user) src terminalId
  let after := shared.setObject address { object with room := room }
  (if object.room.viewers.isEmpty ∧ ¬ room.viewers.isEmpty then
      after.enableAutoPublish address object.nonemptyCallback
    else after,
    if added then [.feedback src] else [])

def removeViewer (shared : SharedRooms) (address : Nat) (con : ConnectionId) : SharedRooms :=
  let object := shared.objects address
  match object.kind with
  | .terminal =>
      let (terminalId, room) := TerminalSharingRoom.removeViewer object.room con
      let after := shared.setObject address { object with room := room }
      if terminalId.isEmpty then after else after.encrypt address
  | _ =>
      let room := SharingRoom.removeViewer object.room con
      let after := shared.setObject address { object with room := room }
      if room.viewers.isEmpty then after.enableAutoPublish address object.emptyCallback
      else after

def perform (thread : ConnectionId) (shared : SharedRooms) :
    RoomAction → SharedRooms × List RoomAction
  | .login userId role place => shared.login thread userId role place
  | .removeRoom kind userId =>
      match shared.rooms kind userId with
      | none => ({ shared with fault := some .assertion }, [])
      | some address => (shared.setRoom kind userId none, [.getViewers address])
  | .getViewers address =>
      (shared, (shared.objects address).room.viewers.map fun viewer => .disconnect viewer.con)
  | .disconnect con =>
      (shared.setConnection con { shared.connections con with disconnecting := true }, [])
  | .getRoom kind userId use =>
      match shared.rooms kind userId with
      | none =>
          (match use with
            | .addViewer _ _ => { shared with fault := some .assertion }
            | _ => shared, [])
      | some address =>
          ({ shared with
            unusable := if shared.Usable address then shared.unusable
              else address :: shared.unusable }, [.use address use])
  | .use address (.forward encrypted) =>
      (if encrypted then shared.encrypt address else shared, [])
  | .use address (.addViewer src terminalId) => shared.addViewer address src terminalId
  | .use address (.removeViewer con) => (shared.removeViewer address con, [])
  | .feedback src => ({ shared with answered := src :: shared.answered }, [])

end SharedRooms

def RoomConnection.clean (connection : RoomConnection) (con : ConnectionId) : List RoomAction :=
  (match connection.user with
    | none => []
    | some userId =>
        if Role.has connection.role Role.flagGuard then
          (Kind.all.filter fun kind => Role.has connection.role kind.flag).map
            fun kind => .removeRoom kind userId
        else if Role.has connection.role Role.flagVisitor then
          match visitedKind connection.role with
          | none => []
          | some kind => [.getRoom kind connection.targetUserId (.removeViewer con)]
        else []) ++ [.disconnect con]

/-- `look` is a task's `execute` or a relay, on any thread; `respond` is `handleResponse` to a
guard that lets a visitor in, and `disconnect` comes from anywhere. -/
inductive RoomEvent where
  | login (con : ConnectionId) (userId : UserId) (role : UInt32)
  | setTargetUserId (con : ConnectionId) (userId : UserId)
  | look (thread : ConnectionId) (kind : Kind) (userId : UserId) (encrypted : Bool)
  | respond (con : ConnectionId) (kind : Kind) (userId : UserId) (src : ConnectionId)
      (terminalId : String)
  | disconnect (con : ConnectionId)
  | clean (con : ConnectionId)
  | advance (thread : ConnectionId)
  deriving DecidableEq, Repr

abbrev RoomThreads := Threads.Pool SharedRooms RoomAction

def initialRooms : RoomThreads where
  shared := {}
  pending := fun _ => []

/-- Nothing follows a fault. A connection that is bound, or cleaned up, does not log in. -/
def roomStep (pool : RoomThreads) (event : RoomEvent) : Option RoomThreads :=
  if pool.shared.fault.isSome then none
  else
    match event with
    | .login con userId role =>
        if (pool.shared.connections con).user.isSome ∨ (pool.shared.connections con).cleaned then
          none
        else
          pool.start con pool.shared
            [.login userId role
              (if Role.has role Role.flagGuard then .createRoom Kind.all else .bindUser)]
    | .setTargetUserId con userId =>
        if (pool.shared.connections con).targetUserId ≠ 0 then none
        else
          some { pool with
            shared := pool.shared.setConnection con
              { pool.shared.connections con with targetUserId := userId } }
    | .look thread kind userId encrypted =>
        pool.start thread pool.shared [.getRoom kind userId (.forward encrypted)]
    | .respond con kind userId src terminalId =>
        pool.start con pool.shared [.getRoom kind userId (.addViewer src terminalId)]
    | .disconnect con => some { pool with shared := (pool.shared.perform con (.disconnect con)).1 }
    | .clean con =>
        if (pool.shared.connections con).cleaned then none
        else
          pool.start con
            (pool.shared.setConnection con { pool.shared.connections con with cleaned := true })
            ((pool.shared.connections con).clean con)
    | .advance thread => pool.advance (SharedRooms.perform thread) thread

end EasyViewer
