import EasyViewer.SharingRoom
import EasyViewer.Library.Run

/-!
A screen room under calls of `addViewer` and `removeViewer`: one viewer per user, and the
owner was last told to publish its desktop just when there are viewers. A connection's
user does not change meanwhile.
-/

namespace EasyViewer

inductive RoomCall where
  | addViewer (con : ConnectionId)
  | removeViewer (con : ConnectionId)

/-- A room with the `EnableAutoPublishDesktop` values its callbacks sent to the owner. -/
structure ToldRoom where
  room : Room
  told : List Bool := []

/-- A call under the room's mutex. `addViewer` reads the id of the user that the connection is
bound to: the call of an unbound connection has no result. -/
def roomCallStep (userIdOf : ConnectionId → Option UserId) (state : ToldRoom) :
    RoomCall → Option ToldRoom
  | .addViewer con =>
      if userIdOf con = none then none
      else
        let after := (SharingRoom.addViewer state.room userIdOf con true).2
        some {
          room := after
          told := if SharingRoom.becameNonempty state.room after then state.told ++ [true]
            else state.told }
  | .removeViewer con =>
      let after := SharingRoom.removeViewer state.room con
      some {
        room := after
        told := if SharingRoom.leftEmpty after then state.told ++ [false] else state.told }

/-- At most one viewer of each user, and the last value told, disabled before any was, says
whether the room has viewers. -/
structure RoomDisciplined (userIdOf : ConnectionId → Option UserId) (state : ToldRoom) : Prop where
  callbacks : state.room.callbacks = true
  unique : ∀ userId, (state.room.getViewersOf userIdOf userId).length ≤ 1
  told : state.told.getLast?.getD false = !state.room.viewers.isEmpty

namespace SharingRoom

variable {room : Room} {userIdOf : ConnectionId → Option UserId} {con : ConnectionId}

theorem addViewer_unique (room : Room) (userIdOf : ConnectionId → Option UserId)
    (con : ConnectionId) :
    (addViewer room userIdOf con true).2 = room ∨
      ∃ userId, userIdOf con = some userId ∧ room.getViewersOf userIdOf userId = [] ∧
        (addViewer room userIdOf con true).2 =
          { room with viewers := room.viewers ++ [{ con := con }] } := by
  simp only [addViewer]
  split
  · exact Or.inl rfl
  · rename_i userId bound
    split
    · exact Or.inl rfl
    · rename_i free
      simp only [true_and, ne_eq, not_not] at free
      rcases room.insert_cases { con := con } with inserted | refused
      · exact Or.inr ⟨userId, bound, free, by rw [inserted]⟩
      · exact Or.inl (by rw [refused])

theorem getViewersOf_append (viewer : Viewer) (userId : UserId) :
    ({ room with viewers := room.viewers ++ [viewer] } : Room).getViewersOf userIdOf userId =
      room.getViewersOf userIdOf userId ++
        if userIdOf viewer.con = some userId then [viewer] else [] := by
  simp only [Room.getViewersOf, List.filter_append, List.filter_cons, List.filter_nil,
    decide_eq_true_eq]

theorem getViewersOf_erase (userId : UserId) :
    ((room.erase con).getViewersOf userIdOf userId).length ≤
      (room.getViewersOf userIdOf userId).length :=
  (List.Sublist.filter _ List.filter_sublist).length_le

end SharingRoom

theorem RoomDisciplined.addViewer {userIdOf : ConnectionId → Option UserId} {state : ToldRoom}
    (disciplined : RoomDisciplined userIdOf state) {con : ConnectionId} {next : ToldRoom}
    (stepped : roomCallStep userIdOf state (.addViewer con) = some next) :
    RoomDisciplined userIdOf next := by
  obtain ⟨callbacks, unique, told⟩ := disciplined
  simp only [roomCallStep, Option.ite_none_left_eq_some, Option.some.injEq] at stepped
  obtain ⟨_, rfl⟩ := stepped
  rcases SharingRoom.addViewer_unique state.room userIdOf con with same | joined
  · rw [same]
    have quiet : SharingRoom.becameNonempty state.room state.room = false := by
      cases empty : state.room.viewers.isEmpty <;> simp [SharingRoom.becameNonempty, empty]
    exact ⟨callbacks, unique, by simpa [quiet] using told⟩
  · obtain ⟨userId, bound, free, added⟩ := joined
    rw [added]
    refine ⟨callbacks, fun id => ?_, ?_⟩
    · rw [SharingRoom.getViewersOf_append]
      split
      · rename_i same
        obtain rfl : userId = id := Option.some.inj (bound.symm.trans same)
        rw [free]
        exact le_rfl
      · rw [List.append_nil]
        exact unique id
    · have nonempty : (state.room.viewers ++ [({ con := con } : Viewer)]).isEmpty = false := by
        simp
      cases empty : state.room.viewers.isEmpty with
      | true => simp [SharingRoom.becameNonempty, empty, callbacks]
      | false => simpa [SharingRoom.becameNonempty, empty, nonempty] using told

theorem RoomDisciplined.removeViewer {userIdOf : ConnectionId → Option UserId} {state : ToldRoom}
    (disciplined : RoomDisciplined userIdOf state) {con : ConnectionId} {next : ToldRoom}
    (stepped : roomCallStep userIdOf state (.removeViewer con) = some next) :
    RoomDisciplined userIdOf next := by
  obtain ⟨callbacks, unique, told⟩ := disciplined
  simp only [roomCallStep, Option.some.injEq] at stepped
  subst stepped
  refine ⟨callbacks, fun id => (SharingRoom.getViewersOf_erase id).trans (unique id), ?_⟩
  have sameCallbacks : (SharingRoom.removeViewer state.room con).callbacks = true := callbacks
  cases empty : (SharingRoom.removeViewer state.room con).viewers.isEmpty with
  | true => simp [SharingRoom.leftEmpty, empty, sameCallbacks]
  | false =>
      have before : state.room.viewers.isEmpty = false := by
        rw [Bool.eq_false_iff, List.isEmpty_iff.ne] at empty ⊢
        intro none
        exact empty (by simp [SharingRoom.removeViewer, Room.erase, none])
      simpa [SharingRoom.leftEmpty, empty, before] using told

/-- In every run on a new screen room with its callbacks set the room is disciplined. -/
theorem sharingRoom_disciplined (userIdOf : ConnectionId → Option UserId) (owner : ConnectionId)
    (calls : List RoomCall) :
    Transition.Throughout (roomCallStep userIdOf) (RoomDisciplined userIdOf)
      { room := { owner := owner, callbacks := true } } calls := by
  refine Transition.Throughout.of_step (roomCallStep userIdOf) ?_ ⟨rfl, fun _ => Nat.zero_le _, rfl⟩
  intro state call next disciplined stepped
  cases call with
  | addViewer con => exact disciplined.addViewer stepped
  | removeViewer con => exact disciplined.removeViewer stepped

end EasyViewer
