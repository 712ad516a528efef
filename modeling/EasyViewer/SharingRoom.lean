import EasyViewer.Define
import EasyViewer.RequestProcessor

/-!
`SharingRoom.cpp`, `TerminalSharingRoom.cpp` and the three managers made from
`SharingRoomManager.h`. The two room classes share one record: a viewer of a screen or
file room has no terminal id, and only screen rooms get callbacks.
-/

namespace EasyViewer

structure Viewer where
  con : ConnectionId
  terminalId : String := ""
  deriving DecidableEq, Repr

structure Room where
  owner : ConnectionId
  viewers : List Viewer := []
  callbacks : Bool := false
  deriving DecidableEq, Repr

namespace Room

def holds (room : Room) (con : ConnectionId) : Bool := room.viewers.any fun viewer => viewer.con = con

def getViewersOf (room : Room) (userIdOf : ConnectionId → Option UserId) (userId : UserId) :
    List Viewer :=
  room.viewers.filter fun viewer => userIdOf viewer.con = some userId

def insert (room : Room) (viewer : Viewer) : Bool × Room :=
  if room.holds viewer.con then (false, room)
  else (true, { room with viewers := room.viewers ++ [viewer] })

def erase (room : Room) (con : ConnectionId) : Room :=
  { room with viewers := room.viewers.filter fun viewer => viewer.con ≠ con }

end Room

namespace SharingRoom

def addViewer (room : Room) (userIdOf : ConnectionId → Option UserId) (con : ConnectionId)
    (uniqueUserId : Bool) : Bool × Room :=
  match userIdOf con with
  | none => (false, room)
  | some userId =>
      if uniqueUserId ∧ room.getViewersOf userIdOf userId ≠ [] then (false, room)
      else room.insert { con := con }

def becameNonempty (before after : Room) : Bool :=
  before.viewers.isEmpty && !after.viewers.isEmpty && before.callbacks

def removeViewer (room : Room) (con : ConnectionId) : Room := room.erase con

/-- Whether `m_roomEmptyCallback` is called, also when nobody was removed. -/
def leftEmpty (after : Room) : Bool := after.viewers.isEmpty && after.callbacks

end SharingRoom

namespace TerminalSharingRoom

def addViewer (room : Room) (con : ConnectionId) (terminalId : String) : Bool × Room :=
  room.insert { con := con, terminalId := terminalId }

def getTerminalId (room : Room) (con : ConnectionId) : String :=
  match room.viewers.find? fun viewer => viewer.con = con with
  | none => ""
  | some viewer => viewer.terminalId

/-- Answers the terminal id of the viewer that left. -/
def removeViewer (room : Room) (con : ConnectionId) : String × Room :=
  (getTerminalId room con, room.erase con)

end TerminalSharingRoom

def Kind.viewer (kind : Kind) (con : ConnectionId) (terminalId : String) : Viewer :=
  match kind with
  | .terminal => { con := con, terminalId := terminalId }
  | _ => { con := con }

@[simp] theorem Kind.viewer_con (kind : Kind) (con : ConnectionId) (terminalId : String) :
    (kind.viewer con terminalId).con = con := by
  cases kind <;> rfl

def Room.addViewer (room : Room) (kind : Kind) (userIdOf : ConnectionId → Option UserId)
    (con : ConnectionId) (terminalId : String) : Bool × Room :=
  match kind with
  | .terminal => TerminalSharingRoom.addViewer room con terminalId
  | _ => SharingRoom.addViewer room userIdOf con true

namespace Room

theorem mem_erase {room : Room} {con : ConnectionId} {viewer : Viewer} :
    viewer ∈ (room.erase con).viewers ↔ viewer ∈ room.viewers ∧ viewer.con ≠ con := by
  simp [erase]

theorem holds_iff {room : Room} {con : ConnectionId} :
    room.holds con = true ↔ ∃ viewer ∈ room.viewers, viewer.con = con := by
  simp [holds]

theorem insert_cases (room : Room) (viewer : Viewer) :
    room.insert viewer = (true, { room with viewers := room.viewers ++ [viewer] }) ∨
      room.insert viewer = (false, room) := by
  simp only [insert]
  split
  · exact Or.inr rfl
  · exact Or.inl rfl

theorem addViewer_cases (room : Room) (kind : Kind) (userIdOf : ConnectionId → Option UserId)
    (con : ConnectionId) (terminalId : String) :
    room.addViewer kind userIdOf con terminalId =
        (true, { room with viewers := room.viewers ++ [kind.viewer con terminalId] }) ∨
      room.addViewer kind userIdOf con terminalId = (false, room) := by
  have shared : ∀ unique : Bool, SharingRoom.addViewer room userIdOf con unique =
        (true, { room with viewers := room.viewers ++ [{ con := con }] }) ∨
      SharingRoom.addViewer room userIdOf con unique = (false, room) := by
    intro unique
    simp only [SharingRoom.addViewer]
    split
    · exact Or.inr rfl
    · split
      · exact Or.inr rfl
      · exact room.insert_cases { con := con }
  cases kind with
  | terminal => exact room.insert_cases { con := con, terminalId := terminalId }
  | screen => exact shared true
  | fileTransmission => exact shared true

end Room

abbrev Rooms := Kind → UserId → Option Room

namespace SharingRoomManager

def set (rooms : Rooms) (kind : Kind) (userId : UserId) (room : Option Room) : Rooms :=
  fun other id => if other = kind ∧ id = userId then room else rooms other id

def createRoom (rooms : Rooms) (kind : Kind) (userId : UserId) (owner : ConnectionId) :
    Bool × Rooms :=
  match rooms kind userId with
  | some _ => (false, rooms)
  | none =>
      (true, set rooms kind userId (some { owner := owner, callbacks := kind = .screen }))

def removeRoom (rooms : Rooms) (kind : Kind) (userId : UserId) : Rooms :=
  set rooms kind userId none

@[simp] theorem set_self (rooms : Rooms) (kind : Kind) (userId : UserId) (room : Option Room) :
    set rooms kind userId room kind userId = room := by
  simp [set]

theorem set_other {rooms : Rooms} {kind other : Kind} {userId id : UserId} {room : Option Room}
    (apart : ¬ (other = kind ∧ id = userId)) :
    set rooms kind userId room other id = rooms other id := by
  simp [set, apart]

end SharingRoomManager

end EasyViewer
