import EasyViewer.SharingRoom

/-!
What can happen to the rooms, without the handlers that do it: six kinds of change, and
who is a viewer after a history of them. `SharingEffects.lean` shows that every step of
the servers is one of these changes.
-/

namespace EasyViewer

inductive RoomChange where
  | keep
  | create (owner : ConnectionId) (userId : UserId) (role : UInt32)
  | rollBack (userId : UserId)
  | letIn (kind : Kind) (userId : UserId) (viewer : Viewer)
  | leave (kind : Kind) (userId : UserId) (con : ConnectionId)
  | close (userId : UserId) (role : UInt32)
  deriving DecidableEq, Repr

/-- The rooms that a guard's login opens, one for each flag of its role. -/
def createdRooms (owner : ConnectionId) (userId : UserId) (role : UInt32) (rooms : Rooms) : Rooms :=
  fun kind id =>
    if id = userId ∧ Role.has role kind.flag then
      some { owner := owner, callbacks := kind = .screen }
    else rooms kind id

namespace RoomChange

def apply : RoomChange → Rooms → Rooms
  | .keep, rooms => rooms
  | .create owner userId role, rooms => createdRooms owner userId role rooms
  | .rollBack userId, rooms => fun kind id => if id = userId then none else rooms kind id
  | .letIn kind userId viewer, rooms =>
      SharingRoomManager.set rooms kind userId
        ((rooms kind userId).map fun room => { room with viewers := room.viewers ++ [viewer] })
  | .leave kind userId con, rooms =>
      SharingRoomManager.set rooms kind userId ((rooms kind userId).map fun room => room.erase con)
  | .close userId role, rooms =>
      fun kind id => if id = userId ∧ Role.has role kind.flag then none else rooms kind id

def Ends (kind : Kind) (userId : UserId) (con : ConnectionId) : RoomChange → Prop
  | .keep => False
  | .create _ id role => id = userId ∧ Role.has role kind.flag
  | .rollBack id => id = userId
  | .letIn _ _ _ => False
  | .leave other id who => other = kind ∧ id = userId ∧ who = con
  | .close id role => id = userId ∧ Role.has role kind.flag

def Admits (kind : Kind) (userId : UserId) (con : ConnectionId) : RoomChange → Prop
  | .letIn other id viewer => other = kind ∧ id = userId ∧ viewer.con = con
  | _ => False

def Valid (rooms : Rooms) : RoomChange → Prop
  | .letIn kind userId _ => ∃ room, rooms kind userId = some room
  | _ => True

end RoomChange

def Member (rooms : Rooms) (kind : Kind) (userId : UserId) (con : ConnectionId) : Prop :=
  ∃ room, rooms kind userId = some room ∧ room.holds con = true

/-- The latest word of the history on the visit is its admission. -/
def Accepted (history : List RoomChange) (kind : Kind) (userId : UserId) (con : ConnectionId) :
    Prop :=
  ∃ before change after, history = before ++ change :: after ∧ change.Admits kind userId con ∧
    ∀ later ∈ after, ¬ later.Ends kind userId con

section

variable {rooms : Rooms} {kind : Kind} {userId : UserId} {con : ConnectionId}

theorem Member.of_eq {other : Rooms} (same : other kind userId = rooms kind userId) :
    Member other kind userId con ↔ Member rooms kind userId con := by
  simp only [Member]
  rw [same]

theorem not_member_of_none (absent : rooms kind userId = none) :
    ¬ Member rooms kind userId con := by
  rintro ⟨room, registered, _⟩
  rw [absent] at registered
  contradiction

theorem member_letIn {admitted : Kind} {id : UserId} {viewer : Viewer}
    (valid : (RoomChange.letIn admitted id viewer).Valid rooms) :
    Member ((RoomChange.letIn admitted id viewer).apply rooms) kind userId con ↔
      (admitted = kind ∧ id = userId ∧ viewer.con = con) ∨ Member rooms kind userId con := by
  obtain ⟨room, registered⟩ := valid
  by_cases here : kind = admitted ∧ userId = id
  · obtain ⟨rfl, rfl⟩ := here
    have after : (RoomChange.letIn kind userId viewer).apply rooms kind userId =
        some { room with viewers := room.viewers ++ [viewer] } := by
      simp [RoomChange.apply, registered]
    constructor
    · rintro ⟨found, isFound, held⟩
      rw [after] at isFound
      cases isFound
      obtain ⟨member, listed, named⟩ := Room.holds_iff.mp held
      rcases List.mem_append.mp listed with old | new
      · exact Or.inr ⟨room, registered, Room.holds_iff.mpr ⟨member, old, named⟩⟩
      · rw [List.mem_singleton] at new
        exact Or.inl ⟨rfl, rfl, new ▸ named⟩
    · rintro (⟨_, _, named⟩ | ⟨found, isFound, held⟩)
      · exact ⟨_, after, Room.holds_iff.mpr
          ⟨viewer, List.mem_append.mpr (Or.inr (List.mem_singleton.mpr rfl)), named⟩⟩
      · rw [registered] at isFound
        cases isFound
        obtain ⟨member, listed, named⟩ := Room.holds_iff.mp held
        exact ⟨_, after, Room.holds_iff.mpr
          ⟨member, List.mem_append.mpr (Or.inl listed), named⟩⟩
  · have same : (RoomChange.letIn admitted id viewer).apply rooms kind userId =
        rooms kind userId := SharingRoomManager.set_other here
    rw [Member.of_eq same]
    constructor
    · exact Or.inr
    · rintro (⟨rfl, rfl, _⟩ | still)
      · exact absurd ⟨rfl, rfl⟩ here
      · exact still

theorem member_leave {left : Kind} {id : UserId} {who : ConnectionId} :
    Member ((RoomChange.leave left id who).apply rooms) kind userId con ↔
      Member rooms kind userId con ∧ ¬ (left = kind ∧ id = userId ∧ who = con) := by
  by_cases here : kind = left ∧ userId = id
  · obtain ⟨rfl, rfl⟩ := here
    have after : (RoomChange.leave kind userId who).apply rooms kind userId =
        (rooms kind userId).map fun room => room.erase who := by
      simp [RoomChange.apply]
    constructor
    · rintro ⟨found, isFound, held⟩
      rw [after, Option.map_eq_some_iff] at isFound
      obtain ⟨room, registered, rfl⟩ := isFound
      obtain ⟨viewer, listed, named⟩ := Room.holds_iff.mp held
      obtain ⟨was, apart⟩ := Room.mem_erase.mp listed
      refine ⟨⟨room, registered, Room.holds_iff.mpr ⟨viewer, was, named⟩⟩, ?_⟩
      rintro ⟨_, _, same⟩
      exact apart (named.trans same.symm)
    · rintro ⟨⟨room, registered, held⟩, stays⟩
      obtain ⟨viewer, listed, named⟩ := Room.holds_iff.mp held
      have apart : viewer.con ≠ who := fun same => stays ⟨rfl, rfl, same.symm.trans named⟩
      refine ⟨room.erase who, ?_, Room.holds_iff.mpr
        ⟨viewer, Room.mem_erase.mpr ⟨listed, apart⟩, named⟩⟩
      rw [after, registered, Option.map_some]
  · have same : (RoomChange.leave left id who).apply rooms kind userId = rooms kind userId :=
      SharingRoomManager.set_other here
    rw [Member.of_eq same]
    constructor
    · intro still
      refine ⟨still, ?_⟩
      rintro ⟨rfl, rfl, _⟩
      exact here ⟨rfl, rfl⟩
    · exact fun still => still.1

theorem member_apply {change : RoomChange} (valid : change.Valid rooms) :
    Member (change.apply rooms) kind userId con ↔
      change.Admits kind userId con ∨
        Member rooms kind userId con ∧ ¬ change.Ends kind userId con := by
  cases change with
  | keep => simp [RoomChange.apply, RoomChange.Admits, RoomChange.Ends]
  | create owner id role =>
      by_cases here : userId = id ∧ Role.has role kind.flag = true
      · have created : (RoomChange.create owner id role).apply rooms kind userId =
            some { owner := owner, callbacks := kind = .screen } := if_pos here
        have ended : (RoomChange.create owner id role).Ends kind userId con :=
          ⟨here.1.symm, here.2⟩
        simp only [RoomChange.Admits, ended, not_true_eq_false, and_false, or_self, iff_false]
        rintro ⟨room, registered, held⟩
        rw [created] at registered
        cases registered
        exact absurd held (by simp [Room.holds])
      · have same : (RoomChange.create owner id role).apply rooms kind userId =
            rooms kind userId := if_neg here
        have goesOn : ¬ (RoomChange.create owner id role).Ends kind userId con :=
          fun ended => here ⟨ended.1.symm, ended.2⟩
        simp [Member.of_eq same, RoomChange.Admits, goesOn]
  | rollBack id =>
      by_cases here : userId = id
      · have ended : (RoomChange.rollBack id).Ends kind userId con := here.symm
        simp only [RoomChange.Admits, ended, not_true_eq_false, and_false, or_self, iff_false]
        exact not_member_of_none (if_pos here)
      · have same : (RoomChange.rollBack id).apply rooms kind userId = rooms kind userId :=
          if_neg here
        have goesOn : ¬ (RoomChange.rollBack id).Ends kind userId con := fun ended => here ended.symm
        simp [Member.of_eq same, RoomChange.Admits, goesOn]
  | letIn admitted id viewer =>
      simp [member_letIn valid, RoomChange.Admits, RoomChange.Ends]
  | leave left id who =>
      simp only [member_leave, RoomChange.Admits, RoomChange.Ends, false_or]
  | close id role =>
      by_cases here : userId = id ∧ Role.has role kind.flag = true
      · have ended : (RoomChange.close id role).Ends kind userId con := ⟨here.1.symm, here.2⟩
        simp only [RoomChange.Admits, ended, not_true_eq_false, and_false, or_self, iff_false]
        exact not_member_of_none (if_pos here)
      · have same : (RoomChange.close id role).apply rooms kind userId = rooms kind userId :=
          if_neg here
        have goesOn : ¬ (RoomChange.close id role).Ends kind userId con :=
          fun ended => here ⟨ended.1.symm, ended.2⟩
        simp [Member.of_eq same, RoomChange.Admits, goesOn]

end

theorem accepted_append {history : List RoomChange} {change : RoomChange} {kind : Kind}
    {userId : UserId} {con : ConnectionId} :
    Accepted (history ++ [change]) kind userId con ↔
      change.Admits kind userId con ∨
        Accepted history kind userId con ∧ ¬ change.Ends kind userId con := by
  constructor
  · rintro ⟨before, admitting, after, split, admits, lasts⟩
    rcases List.eq_nil_or_concat after with rfl | ⟨rest, last, rfl⟩
    · have same : change = admitting := by
        have reversed := congrArg List.getLast? split
        simpa using reversed
      exact Or.inl (same ▸ admits)
    · rw [List.concat_eq_append] at split lasts
      rw [← List.cons_append, ← List.append_assoc] at split
      obtain ⟨earlier, same⟩ := List.append_inj' split rfl
      rw [List.singleton_inj] at same
      subst same
      refine Or.inr ⟨⟨before, admitting, rest, earlier, admits, ?_⟩, ?_⟩
      · intro later listed
        exact lasts later (List.mem_append.mpr (Or.inl listed))
      · exact lasts change (List.mem_append.mpr (Or.inr (List.mem_singleton.mpr rfl)))
  · rintro (admits | ⟨⟨before, admitting, after, rfl, admits, lasts⟩, goesOn⟩)
    · exact ⟨history, change, [], rfl, admits, by simp⟩
    · refine ⟨before, admitting, after ++ [change], by simp, admits, ?_⟩
      intro later listed
      rcases List.mem_append.mp listed with old | new
      · exact lasts later old
      · rw [List.mem_singleton] at new
        exact new ▸ goesOn

theorem accepted_step {rooms : Rooms} {history : List RoomChange} {change : RoomChange}
    (valid : change.Valid rooms)
    (agree : ∀ kind userId con, Member rooms kind userId con ↔ Accepted history kind userId con)
    (kind : Kind) (userId : UserId) (con : ConnectionId) :
    Member (change.apply rooms) kind userId con ↔
      Accepted (history ++ [change]) kind userId con := by
  rw [member_apply valid, accepted_append, agree]

end EasyViewer
