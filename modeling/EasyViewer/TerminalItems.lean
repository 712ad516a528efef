import EasyViewer.Library.Run
import Mathlib.Data.List.Count
import Mathlib.Data.List.Nodup

/-!
Who owns a terminal's item in the Linux `TerminalManager`. The map has it, a thread inside
`createTerminal` or `closeTerminal` has it, or it is destroyed; the loop `exec` goes through
pointers to items that it does not own.
-/

namespace EasyViewer

/-- Where a thread is with an item that only it has: behind `EPOLL_CTL_ADD` in `createTerminal`,
or behind `erase` in `closeTerminal`. -/
inductive ItemStage where
  | insert
  | unpoll
  | onTerminalClosed
  | dec
  deriving DecidableEq, Repr

structure ItemCall where
  stage : ItemStage
  id : Nat
  byLoop : Bool
  deriving DecidableEq, Repr

inductive TerminalFault where
  | danglingItem
  | killedOwnGroup
  deriving DecidableEq, Repr

/-- The ids are drawn at random in the source; here they count. `ready` is what `exec` has still to
go through: events, and at the end a copy of the map. Histories: the items that never got a
terminal, those whose `onTerminalClosed` came, the destroyed ones, and those listed after `exec`
had copied the map. -/
structure TerminalItems where
  made : Nat := 0
  items : List Nat := []
  polled : List Nat := []
  calls : List ItemCall := []
  waiting : Bool := false
  ready : List Nat := []
  exiting : Bool := false
  finishing : Bool := false
  fault : Option TerminalFault := none
  failed : List Nat := []
  closed : List Nat := []
  destroyed : List Nat := []
  late : List Nat := []
  deriving DecidableEq, Repr

inductive ItemEvent where
  | createTerminal (forked added : Bool)
  | closeTerminal (id : Nat)
  | writeCommand (id : Nat) (failed : Bool)
  | resizeTerminal (id : Nat)
  | advance (call : ItemCall)
  | exit
  | enter
  | wait (batch : List Nat)
  | handle (ended : Bool)
  | finish
  deriving DecidableEq, Repr

def maxEvent : Nat := 256

namespace TerminalItems

def touch (state : TerminalItems) (id : Nat) (next : TerminalItems) : TerminalItems :=
  if id ∈ state.destroyed then { state with fault := some .danglingItem } else next

def closeTerminal (state : TerminalItems) (id : Nat) (byLoop : Bool) : TerminalItems :=
  if id ∈ state.items then
    { state with
      items := state.items.erase id
      calls := { stage := .unpoll, id := id, byLoop := byLoop } :: state.calls }
  else state

def lookup (state : TerminalItems) (id : Nat) (failed : Bool) : TerminalItems :=
  if id ∈ state.items then
    state.touch id (if failed then state.closeTerminal id false else state)
  else state

/-- When `forkpty` fails the destructor kills the process 0, which is the whole group of the caller.
Nothing can be added to an event loop that is closed. -/
def createTerminal (state : TerminalItems) (forked added : Bool) : Option TerminalItems :=
  let made := { state with made := state.made + 1 }
  let dropped := { made with
    failed := state.made :: state.failed
    destroyed := state.made :: state.destroyed }
  if ¬ forked then some { dropped with fault := some .killedOwnGroup }
  else if ¬ added then some dropped
  else if state.exiting then none
  else some { made with
    polled := state.made :: state.polled
    calls := { stage := .insert, id := state.made, byLoop := false } :: state.calls }

def goesOn (state : TerminalItems) (call : ItemCall) (stage : ItemStage) : TerminalItems :=
  { state with calls := { call with stage := stage } :: state.calls }

def perform (state : TerminalItems) (call : ItemCall) : TerminalItems :=
  state.touch call.id <|
    match call.stage with
    | .insert => { state with
        items := call.id :: state.items
        late := if state.finishing then call.id :: state.late else state.late }
    | .unpoll => { state with polled := state.polled.erase call.id }.goesOn call .onTerminalClosed
    | .onTerminalClosed => { state with closed := call.id :: state.closed }.goesOn call .dec
    | .dec => { state with destroyed := call.id :: state.destroyed }

def LoopFree (state : TerminalItems) : Prop :=
  state.waiting = false ∧ ∀ call ∈ state.calls, call.byLoop = false

instance (state : TerminalItems) : Decidable state.LoopFree := inferInstanceAs (Decidable (_ ∧ _))

/-- The loop's next item. The copy of the map is closed one by one, whatever can be read. -/
def handle (state : TerminalItems) (ended : Bool) : Option TerminalItems :=
  match state.ready with
  | [] => none
  | id :: rest =>
      if state.LoopFree then
        let taken := { state with ready := rest }
        some (state.touch id
          (if ended ∨ state.finishing then taken.closeTerminal id true else taken))
      else none

end TerminalItems

def itemStep (state : TerminalItems) (event : ItemEvent) : Option TerminalItems :=
  if state.fault.isSome then none
  else
    match event with
    | .createTerminal forked added => state.createTerminal forked added
    | .closeTerminal id => some (state.closeTerminal id false)
    | .writeCommand id failed => some (state.lookup id failed)
    | .resizeTerminal id => some (state.lookup id false)
    | .advance call =>
        if call ∈ state.calls then
          some ({ state with calls := state.calls.erase call }.perform call)
        else none
    | .exit => some { state with exiting := true }
    | .enter =>
        if state.LoopFree ∧ state.ready = [] ∧ ¬ state.exiting ∧ ¬ state.finishing then
          some { state with waiting := true }
        else none
    | .wait batch =>
        if state.waiting ∧ batch.Nodup ∧ (∀ id ∈ batch, id ∈ state.polled) ∧
            batch.length ≤ maxEvent then
          some { state with waiting := false, ready := batch }
        else none
    | .handle ended => state.handle ended
    | .finish =>
        if state.LoopFree ∧ state.ready = [] ∧ state.exiting ∧ ¬ state.finishing then
          some { state with finishing := true, ready := state.items }
        else none

namespace TerminalItems

def callsAt (stages : ItemStage → Bool) (id : Nat) (calls : List ItemCall) : Nat :=
  calls.countP fun call => call.id == id && stages call.stage

def anyStage : ItemStage → Bool := fun _ => true

def polls : ItemStage → Bool
  | .insert | .unpoll => true
  | .onTerminalClosed | .dec => false

def isDec : ItemStage → Bool
  | .dec => true
  | .insert | .unpoll | .onTerminalClosed => false

/-- Every item that was made is in one place. The kernel has those of the map and of the threads
that have not told it otherwise, `onTerminalClosed` came for those that are destroyed or about to
be, and what `exec` finds at its end it closes. -/
structure Placed (state : TerminalItems) : Prop where
  once : ∀ id, state.items.count id + callsAt anyStage id state.calls + state.destroyed.count id =
    if id < state.made then 1 else 0
  polls : ∀ id, state.polled.count id = state.items.count id + callsAt polls id state.calls
  announced : ∀ id, callsAt isDec id state.calls + state.destroyed.count id =
    state.closed.count id + state.failed.count id
  awaits : state.waiting = true → state.finishing = false
  copied : state.finishing = true → ∀ id ∈ state.items, id ∈ state.ready ∨ id ∈ state.late

/-- `exec` has gone through the copy of the map, and no thread is inside a call. -/
def Over (state : TerminalItems) : Prop :=
  state.finishing = true ∧ state.ready = [] ∧ state.calls = []

/-- No item is destroyed twice, closed twice or listed once it is destroyed; none is destroyed
unless it was closed or never began; and none is left at the end but those that came too late. -/
structure Accounted (state : TerminalItems) : Prop where
  destroyed : state.destroyed.Nodup
  closed : state.closed.Nodup
  listed : state.items.Nodup ∧ ∀ id ∈ state.items, id ∉ state.destroyed
  announced : ∀ id ∈ state.destroyed, id ∈ state.closed ∨ id ∈ state.failed
  left : state.Over → ∀ id < state.made, id ∈ state.destroyed ∨ id ∈ state.late

def LoopSafe (state : TerminalItems) : Prop :=
  state.fault = none ∧ ∀ id ∈ state.ready, id ∉ state.destroyed

/-- No terminal fails to fork, and no other thread destroys an item that `exec` has yet to read. -/
def SparesLoop (state : TerminalItems) : ItemEvent → Prop
  | .createTerminal forked _ => forked = true
  | .advance call => call.stage = .dec → call.byLoop = false → call.id ∉ state.ready
  | _ => True

/-- `exec` comes to an item once, and what it closes itself it has come to already. -/
structure ComesOnce (state : TerminalItems) : Prop where
  ready : state.ready.Nodup
  own : ∀ call ∈ state.calls, call.byLoop = true → call.id ∉ state.ready
  free : state.waiting = true → ∀ call ∈ state.calls, call.byLoop = false
  made : ∀ id ∈ state.ready, id < state.made

/-- What the other threads do leaves `exec` where it is. -/
structure Beside (state next : TerminalItems) : Prop where
  made : state.made ≤ next.made
  ready : next.ready = state.ready
  waiting : next.waiting = state.waiting
  own : ∀ call ∈ next.calls, call.byLoop = true →
    ∃ before ∈ state.calls, before.byLoop = true ∧ before.id = call.id

section

variable {state next : TerminalItems} {call : ItemCall} {id : Nat}

theorem callsAt_cons {calls : List ItemCall} {stages : ItemStage → Bool} :
    callsAt stages id (call :: calls) = callsAt stages id calls +
      if call.id = id ∧ stages call.stage = true then 1 else 0 := by
  simp [callsAt, List.countP_cons]

theorem callsAt_erase {calls : List ItemCall} {stages : ItemStage → Bool} (waits : call ∈ calls) :
    callsAt stages id calls = callsAt stages id (calls.erase call) +
      if call.id = id ∧ stages call.stage = true then 1 else 0 := by
  rw [← callsAt_cons]
  exact (List.perm_cons_erase waits).countP_eq _

theorem callsAt_le_any (stages : ItemStage → Bool) (id : Nat) (calls : List ItemCall) :
    callsAt stages id calls ≤ callsAt anyStage id calls := by
  refine List.countP_mono_left fun call _ both => ?_
  rw [Bool.and_eq_true] at both
  simp [both.1, anyStage]

theorem count_erase_add {ids : List Nat} {other : Nat} (member : id ∈ ids) :
    ids.count other = (ids.erase id).count other + if id = other then 1 else 0 := by
  rw [(List.perm_cons_erase member).count_eq, List.count_cons]
  simp only [beq_iff_eq]

theorem touch_present (present : id ∉ state.destroyed) : state.touch id next = next :=
  if_neg present

theorem Placed.called (placed : state.Placed) (waits : call ∈ state.calls) :
    0 < callsAt anyStage call.id state.calls ∧ call.id ∉ state.destroyed ∧ call.id ∉ state.items := by
  have among : 0 < callsAt anyStage call.id state.calls :=
    List.countP_pos_iff.mpr ⟨call, waits, by simp [anyStage]⟩
  have place := placed.once call.id
  have single : (if call.id < state.made then 1 else 0) ≤ 1 := by split <;> omega
  refine ⟨among, fun gone => ?_, fun listed => ?_⟩
  · have counted := List.count_pos_iff.mpr gone
    omega
  · have counted := List.count_pos_iff.mpr listed
    omega

theorem Placed.listed (placed : state.Placed) (listed : id ∈ state.items) :
    id ∉ state.destroyed := by
  intro gone
  have counted := List.count_pos_iff.mpr gone
  have among := List.count_pos_iff.mpr listed
  have place := placed.once id
  split at place <;> omega

theorem Placed.polled (placed : state.Placed) (polled : id ∈ state.polled) :
    id ∉ state.destroyed := by
  intro gone
  have counted := List.count_pos_iff.mpr gone
  have known := List.count_pos_iff.mpr polled
  have same := placed.polls id
  have fewer := callsAt_le_any TerminalItems.polls id state.calls
  have place := placed.once id
  split at place <;> omega

theorem Placed.create {forked added : Bool} (placed : state.Placed)
    (created : state.createTerminal forked added = some next) : next.Placed := by
  have fresh := placed.once state.made
  rw [if_neg (Nat.lt_irrefl _)] at fresh
  have before (id : Nat) (other : id ≠ state.made) :
      (if id < state.made + 1 then 1 else 0) = if id < state.made then 1 else 0 := by
    split <;> split <;> omega
  have dropped : ∀ fault, { state with
      made := state.made + 1
      fault := fault
      failed := state.made :: state.failed
      destroyed := state.made :: state.destroyed }.Placed := by
    intro fault
    refine ⟨fun id => ?_, placed.polls, fun id => ?_, placed.awaits, placed.copied⟩
    · show state.items.count id + callsAt anyStage id state.calls +
        (state.made :: state.destroyed).count id = _
      have place := placed.once id
      rw [List.count_cons]
      by_cases same : id = state.made
      · subst same
        simp only [beq_self_eq_true, if_true, Nat.lt_succ_self]
        omega
      · rw [before id same, ← place]
        simp [Ne.symm same]
    · show callsAt isDec id state.calls + (state.made :: state.destroyed).count id =
        state.closed.count id + (state.made :: state.failed).count id
      rw [List.count_cons, List.count_cons]
      have same := placed.announced id
      omega
  rw [createTerminal] at created
  split at created
  · cases created
    exact dropped _
  · split at created
    · cases created
      exact dropped _
    · split at created
      · cases created
      · cases created
        refine ⟨fun id => ?_, fun id => ?_, fun id => ?_, placed.awaits, placed.copied⟩
        · show state.items.count id + callsAt anyStage id (_ :: state.calls) +
            state.destroyed.count id = _
          rw [callsAt_cons]
          have place := placed.once id
          by_cases same : id = state.made
          · subst same
            simp only [anyStage, and_self, if_true, Nat.lt_succ_self]
            omega
          · rw [before id same, ← place]
            simp [Ne.symm same]
        · show (state.made :: state.polled).count id = state.items.count id +
            callsAt TerminalItems.polls id (_ :: state.calls)
          rw [callsAt_cons, List.count_cons, placed.polls id, Nat.add_assoc]
          simp [TerminalItems.polls]
        · show callsAt isDec id (_ :: state.calls) + state.destroyed.count id = _
          rw [callsAt_cons]
          simpa [isDec] using placed.announced id

theorem Placed.close {ready : List Nat} (placed : state.Placed) (byLoop : Bool)
    (copied : state.finishing = true → ∀ other ∈ state.items, other ≠ id →
      other ∈ ready ∨ other ∈ state.late) :
    ({ state with ready := ready }.closeTerminal id byLoop).Placed := by
  rw [closeTerminal]
  split
  · rename_i listed
    refine ⟨fun other => ?_, fun other => ?_, fun other => ?_, placed.awaits,
      fun finishing other member => ?_⟩
    · show (state.items.erase id).count other + callsAt anyStage other (_ :: state.calls) +
        state.destroyed.count other = _
      have place := placed.once other
      rw [count_erase_add listed] at place
      rw [callsAt_cons, ← place]
      simp only [anyStage, and_true]
      omega
    · show state.polled.count other = (state.items.erase id).count other +
        callsAt TerminalItems.polls other (_ :: state.calls)
      rw [callsAt_cons, placed.polls other, count_erase_add listed]
      simp only [TerminalItems.polls, and_true]
      omega
    · show callsAt isDec other (_ :: state.calls) + state.destroyed.count other = _
      rw [callsAt_cons]
      simpa [isDec] using placed.announced other
    · have single : state.items.Nodup := by
        refine List.nodup_iff_count_le_one.mpr fun other => ?_
        have place := placed.once other
        split at place <;> omega
      have kept := (List.Nodup.mem_erase_iff single).mp member
      exact copied finishing other kept.2 kept.1
  · rename_i absent
    refine ⟨placed.once, placed.polls, placed.announced, placed.awaits,
      fun finishing other member => ?_⟩
    refine copied finishing other member ?_
    rintro rfl
    exact absent member

theorem Placed.closeTerminal (placed : state.Placed) (byLoop : Bool) :
    (state.closeTerminal id byLoop).Placed :=
  placed.close byLoop fun finishing other member _ => placed.copied finishing other member

theorem Placed.perform (placed : state.Placed) (waits : call ∈ state.calls) :
    ({ state with calls := state.calls.erase call }.perform call).Placed := by
  obtain ⟨_, present, absent⟩ := placed.called waits
  rw [TerminalItems.perform, touch, if_neg present]
  have place (id : Nat) := placed.once id
  have known (id : Nat) := placed.polls id
  have told (id : Nat) := placed.announced id
  simp only [callsAt_erase waits] at place known told
  cases stage : call.stage with
  | insert =>
      simp only [stage, anyStage, TerminalItems.polls, isDec, and_true, and_false, if_false,
        Bool.false_eq_true] at place known told
      refine ⟨fun id => ?_, fun id => ?_, told, placed.awaits, fun finishing id member => ?_⟩
      · show (call.id :: state.items).count id + _ + state.destroyed.count id = _
        rw [List.count_cons, ← place id]
        simp only [beq_iff_eq]
        omega
      · show state.polled.count id = (call.id :: state.items).count id + _
        rw [List.count_cons, known id]
        simp only [beq_iff_eq]
        omega
      · show id ∈ state.ready ∨ id ∈ if state.finishing then call.id :: state.late else state.late
        rw [if_pos finishing]
        rcases List.mem_cons.mp member with rfl | before
        · exact .inr List.mem_cons_self
        · exact (placed.copied finishing id before).imp_right (List.mem_cons_of_mem _)
  | unpoll =>
      have polled : call.id ∈ state.polled := by
        rw [← List.count_pos_iff, known call.id, if_pos ⟨rfl, by rw [stage]; rfl⟩]
        exact Nat.succ_pos _
      refine ⟨fun id => ?_, fun id => ?_, fun id => ?_, placed.awaits, placed.copied⟩
      · show state.items.count id + callsAt anyStage id (_ :: state.calls.erase call) +
          state.destroyed.count id = if id < state.made then 1 else 0
        rw [callsAt_cons, ← place id]
        simp only [anyStage]
      · show (state.polled.erase call.id).count id = state.items.count id +
          callsAt TerminalItems.polls id (_ :: state.calls.erase call)
        have before := known id
        rw [count_erase_add polled] at before
        rw [callsAt_cons]
        simp only [stage, TerminalItems.polls, and_true, and_false, if_false,
          Bool.false_eq_true] at before ⊢
        omega
      · show callsAt isDec id (_ :: state.calls.erase call) + state.destroyed.count id =
          state.closed.count id + state.failed.count id
        rw [callsAt_cons, ← told id]
        simp only [stage, isDec, Bool.false_eq_true]
  | onTerminalClosed =>
      refine ⟨fun id => ?_, fun id => ?_, fun id => ?_, placed.awaits, placed.copied⟩
      · show state.items.count id + callsAt anyStage id (_ :: state.calls.erase call) +
          state.destroyed.count id = if id < state.made then 1 else 0
        rw [callsAt_cons, ← place id]
        simp only [anyStage]
      · show state.polled.count id = state.items.count id +
          callsAt TerminalItems.polls id (_ :: state.calls.erase call)
        rw [callsAt_cons, known id]
        simp only [stage, TerminalItems.polls, Bool.false_eq_true]
      · show callsAt isDec id (_ :: state.calls.erase call) + state.destroyed.count id =
          (call.id :: state.closed).count id + state.failed.count id
        have before := told id
        rw [callsAt_cons, List.count_cons]
        simp only [stage, isDec, beq_iff_eq, and_true, and_false, if_false,
          Bool.false_eq_true] at before ⊢
        omega
  | dec =>
      simp only [stage, anyStage, TerminalItems.polls, isDec, and_true, and_false, if_false,
        Bool.false_eq_true] at place known told
      refine ⟨fun id => ?_, known, fun id => ?_, placed.awaits, placed.copied⟩
      · show state.items.count id + callsAt anyStage id (state.calls.erase call) +
          (call.id :: state.destroyed).count id = _
        rw [List.count_cons, ← place id]
        simp only [beq_iff_eq]
        omega
      · show callsAt isDec id (state.calls.erase call) + (call.id :: state.destroyed).count id = _
        rw [List.count_cons, ← told id]
        simp only [beq_iff_eq]
        omega

theorem Placed.handle {ended : Bool} (placed : state.Placed)
    (handled : state.handle ended = some next) : next.Placed := by
  rw [TerminalItems.handle] at handled
  split at handled
  · cases handled
  · rename_i id rest isReady
    split at handled
    · cases handled
      rw [touch]
      split
      · exact ⟨placed.once, placed.polls, placed.announced, placed.awaits, placed.copied⟩
      · split
        · refine placed.close true fun finishing other member different => ?_
          refine (placed.copied finishing other member).imp_left fun among => ?_
          rw [isReady] at among
          exact (List.mem_cons.mp among).resolve_left different
        · rename_i still
          rw [not_or] at still
          exact ⟨placed.once, placed.polls, placed.announced, placed.awaits,
            fun finishing => absurd finishing still.2⟩
    · cases handled

theorem Placed.step {event : ItemEvent} (placed : state.Placed)
    (stepped : itemStep state event = some next) : next.Placed := by
  simp only [itemStep] at stepped
  split at stepped
  · cases stepped
  · cases event with
    | createTerminal forked added => exact placed.create stepped
    | closeTerminal id =>
        cases stepped
        exact placed.closeTerminal false
    | writeCommand id failed | resizeTerminal id =>
        cases stepped
        rw [lookup]
        split
        · rename_i listed
          rw [touch_present (placed.listed listed)]
          split
          · exact placed.closeTerminal false
          · exact placed
        · exact placed
    | advance call =>
        simp only at stepped
        split at stepped
        · rename_i waits
          cases stepped
          exact placed.perform waits
        · cases stepped
    | exit =>
        cases stepped
        exact ⟨placed.once, placed.polls, placed.announced, placed.awaits, placed.copied⟩
    | enter =>
        simp only at stepped
        split at stepped
        · rename_i free
          cases stepped
          exact ⟨placed.once, placed.polls, placed.announced,
            fun _ => eq_false_of_ne_true free.2.2.2, placed.copied⟩
        · cases stepped
    | wait batch =>
        simp only at stepped
        split at stepped
        · rename_i came
          cases stepped
          refine ⟨placed.once, placed.polls, placed.announced, fun again => ?_,
            fun finishing => ?_⟩
          · cases again
          · rw [placed.awaits came.1] at finishing
            cases finishing
        · cases stepped
    | handle ended => exact placed.handle stepped
    | finish =>
        simp only at stepped
        split at stepped
        · rename_i free
          cases stepped
          refine ⟨placed.once, placed.polls, placed.announced, fun waiting => ?_,
            fun _ _ member => .inl member⟩
          rw [free.1.1] at waiting
          cases waiting
        · cases stepped

theorem Placed.accounted (placed : state.Placed) : state.Accounted := by
  have single (id : Nat) :
      state.items.count id + callsAt anyStage id state.calls + state.destroyed.count id ≤ 1 := by
    rw [placed.once id]
    split <;> omega
  refine ⟨?_, ?_, ⟨?_, fun id => placed.listed⟩, fun id gone => ?_, fun ended id made => ?_⟩
  · refine List.nodup_iff_count_le_one.mpr fun id => ?_
    have most := single id
    omega
  · refine List.nodup_iff_count_le_one.mpr fun id => ?_
    have most := single id
    have same := placed.announced id
    have fewer := callsAt_le_any isDec id state.calls
    omega
  · refine List.nodup_iff_count_le_one.mpr fun id => ?_
    have most := single id
    omega
  · have counted := List.count_pos_iff.mpr gone
    have same := placed.announced id
    rw [← List.count_pos_iff, ← List.count_pos_iff]
    omega
  · have place := placed.once id
    rw [if_pos made, ended.2.2] at place
    by_cases listed : id ∈ state.items
    · have found := placed.copied ended.1 id listed
      rw [ended.2.1] at found
      exact .inr (found.resolve_left List.not_mem_nil)
    · rw [List.count_eq_zero.mpr listed] at place
      have nowhere : callsAt anyStage id [] = 0 := rfl
      exact .inl (List.count_pos_iff.mp (by omega))

theorem Beside.refl : Beside state state :=
  ⟨Nat.le_refl _, rfl, rfl, fun call member own => ⟨call, member, own, rfl⟩⟩

theorem ComesOnce.beside (once : state.ComesOnce) (beside : Beside state next) :
    next.ComesOnce := by
  refine ⟨beside.ready ▸ once.ready, fun call member own => ?_, fun waiting call member => ?_,
    fun id member => ?_⟩
  · obtain ⟨before, among, isOwn, same⟩ := beside.own call member own
    rw [beside.ready, ← same]
    exact once.own before among isOwn
  · by_contra own
    obtain ⟨before, among, isOwn, _⟩ := beside.own call member (by simpa using own)
    rw [once.free (beside.waiting ▸ waiting) before among] at isOwn
    cases isOwn
  · exact Nat.lt_of_lt_of_le (once.made id (beside.ready ▸ member)) beside.made

theorem LoopSafe.congr (ready : next.ready = state.ready) (fault : next.fault = state.fault)
    (destroyed : next.destroyed = state.destroyed) : next.LoopSafe ↔ state.LoopSafe := by
  rw [LoopSafe, LoopSafe, ready, fault, destroyed]

theorem closeTerminal_beside : Beside state (state.closeTerminal id false) ∧
    ((state.closeTerminal id false).LoopSafe ↔ state.LoopSafe) := by
  rw [TerminalItems.closeTerminal]
  split
  · refine ⟨⟨Nat.le_refl _, rfl, rfl, fun call member own => ?_⟩, LoopSafe.congr rfl rfl rfl⟩
    rcases List.mem_cons.mp member with rfl | before
    · cases own
    · exact ⟨call, before, own, rfl⟩
  · exact ⟨.refl, Iff.rfl⟩

theorem Placed.lookup_beside {failed : Bool} (placed : state.Placed) :
    Beside state (state.lookup id failed) ∧
      ((state.lookup id failed).LoopSafe ↔ state.LoopSafe) := by
  rw [lookup]
  split
  · rename_i listed
    rw [touch_present (placed.listed listed)]
    split
    · exact closeTerminal_beside
    · exact ⟨.refl, Iff.rfl⟩
  · exact ⟨.refl, Iff.rfl⟩

theorem ComesOnce.create_beside {forked added : Bool} (once : state.ComesOnce)
    (safe : state.LoopSafe) (created : state.createTerminal forked added = some next) :
    Beside state next ∧ (next.LoopSafe ↔ forked = true) := by
  have more : state.made ≤ state.made + 1 := Nat.le_succ _
  have others : ∀ id ∈ state.ready, id ∉ state.made :: state.destroyed := by
    intro id waiting gone
    rcases List.mem_cons.mp gone with rfl | before
    · exact Nat.lt_irrefl _ (once.made _ waiting)
    · exact safe.2 id waiting before
  rw [TerminalItems.createTerminal] at created
  split at created
  · rename_i unforked
    cases created
    refine ⟨⟨more, rfl, rfl, fun call member own => ⟨call, member, own, rfl⟩⟩,
      iff_of_false (fun safeNext => ?_) unforked⟩
    cases safeNext.1
  · rename_i forks
    rw [not_not] at forks
    split at created
    · cases created
      exact ⟨⟨more, rfl, rfl, fun call member own => ⟨call, member, own, rfl⟩⟩,
        iff_of_true ⟨safe.1, others⟩ forks⟩
    · split at created
      · cases created
      · cases created
        refine ⟨⟨more, rfl, rfl, fun call member own => ?_⟩, iff_of_true safe forks⟩
        rcases List.mem_cons.mp member with rfl | before
        · cases own
        · exact ⟨call, before, own, rfl⟩

theorem Placed.perform_beside (placed : state.Placed) (waits : call ∈ state.calls)
    (safe : state.LoopSafe) :
    let next := { state with calls := state.calls.erase call }.perform call
    Beside state next ∧ (next.LoopSafe ↔ (call.stage = .dec → call.id ∉ state.ready)) := by
  obtain ⟨_, present, _⟩ := placed.called waits
  have goesOn : ∀ stage, ∀ other ∈ { call with stage := stage } :: state.calls.erase call,
      other.byLoop = true → ∃ before ∈ state.calls, before.byLoop = true ∧ before.id = other.id := by
    intro stage other member own
    rcases List.mem_cons.mp member with rfl | before
    · exact ⟨call, waits, own, rfl⟩
    · exact ⟨other, List.mem_of_mem_erase before, own, rfl⟩
  rw [TerminalItems.perform, touch, if_neg present]
  cases stage : call.stage with
  | insert =>
      refine ⟨⟨Nat.le_refl _, rfl, rfl, fun other member => goesOn .insert other (List.mem_cons_of_mem _ member)⟩,
        iff_of_true ?_ (by simp)⟩
      exact (LoopSafe.congr rfl rfl rfl).mpr safe
  | unpoll =>
      exact ⟨⟨Nat.le_refl _, rfl, rfl, goesOn .onTerminalClosed⟩,
        iff_of_true ((LoopSafe.congr rfl rfl rfl).mpr safe) (by simp)⟩
  | onTerminalClosed =>
      exact ⟨⟨Nat.le_refl _, rfl, rfl, goesOn .dec⟩,
        iff_of_true ((LoopSafe.congr rfl rfl rfl).mpr safe) (by simp)⟩
  | dec =>
      refine ⟨⟨Nat.le_refl _, rfl, rfl, fun other member => goesOn .dec other (List.mem_cons_of_mem _ member)⟩, ?_⟩
      simp only [forall_const]
      constructor
      · exact fun safeNext waiting => safeNext.2 call.id waiting List.mem_cons_self
      · refine fun spared => ⟨safe.1, fun id waiting gone => ?_⟩
        rcases List.mem_cons.mp gone with rfl | before
        · exact spared waiting
        · exact safe.2 id waiting before

theorem Placed.made (placed : state.Placed)
    (somewhere : 0 < state.items.count id + callsAt anyStage id state.calls) : id < state.made := by
  by_contra beyond
  have place := placed.once id
  rw [if_neg beyond] at place
  omega

theorem Placed.polled_made (placed : state.Placed) (polled : id ∈ state.polled) :
    id < state.made := by
  have known := List.count_pos_iff.mpr polled
  rw [placed.polls id] at known
  have fewer := callsAt_le_any TerminalItems.polls id state.calls
  exact placed.made (by omega)

theorem ComesOnce.handle {ended : Bool} (once : state.ComesOnce) (safe : state.LoopSafe)
    (handled : state.handle ended = some next) : next.ComesOnce ∧ next.LoopSafe := by
  rw [TerminalItems.handle] at handled
  split at handled
  · cases handled
  · rename_i id rest isReady
    have split := List.nodup_cons.mp (isReady ▸ once.ready)
    have later : ∀ other ∈ rest, other ∈ state.ready := fun other member =>
      isReady ▸ List.mem_cons_of_mem _ member
    split at handled
    · rename_i free
      cases handled
      rw [touch_present (safe.2 id (isReady ▸ List.mem_cons_self))]
      have taken : { state with ready := rest }.ComesOnce :=
        ⟨split.2, fun call member own => absurd (free.2 call member) (by simp [own]),
          fun _ => free.2, fun other member => once.made other (later other member)⟩
      have safeTaken : { state with ready := rest }.LoopSafe :=
        ⟨safe.1, fun other member => safe.2 other (later other member)⟩
      split
      · rw [closeTerminal]
        split
        · refine ⟨⟨taken.ready, fun call member own => ?_, fun waiting => ?_, taken.made⟩,
            safeTaken⟩
          · rcases List.mem_cons.mp member with rfl | before
            · exact split.1
            · exact taken.own call before own
          · rw [free.1] at waiting
            cases waiting
        · exact ⟨taken, safeTaken⟩
      · exact ⟨taken, safeTaken⟩
    · cases handled

theorem loopSafe_exact {event : ItemEvent} (good : state.Placed ∧ state.ComesOnce)
    (safe : state.LoopSafe) (stepped : itemStep state event = some next) :
    (next.Placed ∧ next.ComesOnce) ∧ (next.LoopSafe ↔ state.SparesLoop event) := by
  obtain ⟨placed, once⟩ := good
  refine and_assoc.mpr ⟨placed.step stepped, ?_⟩
  have others (beside : Beside state next) (same : next.LoopSafe ↔ state.SparesLoop event) :
      next.ComesOnce ∧ (next.LoopSafe ↔ state.SparesLoop event) := ⟨once.beside beside, same⟩
  have healthy : state.fault.isSome = false := by rw [safe.1, Option.isSome_none]
  simp only [itemStep, healthy, Bool.false_eq_true, if_false] at stepped
  cases event with
  | createTerminal forked added =>
      obtain ⟨beside, same⟩ := once.create_beside safe stepped
      exact others beside same
  | closeTerminal id =>
      cases stepped
      exact others closeTerminal_beside.1 (iff_of_true (closeTerminal_beside.2.mpr safe) trivial)
  | writeCommand id failed | resizeTerminal id =>
      cases stepped
      exact others placed.lookup_beside.1 (iff_of_true (placed.lookup_beside.2.mpr safe) trivial)
  | advance call =>
      simp only at stepped
      split at stepped
      · rename_i waits
        cases stepped
        obtain ⟨beside, same⟩ := placed.perform_beside waits safe
        refine others beside (same.trans (forall_congr' fun _ => ?_))
        refine ⟨fun apart _ => apart, fun apart waiting => ?_⟩
        cases own : call.byLoop with
        | true => exact once.own call waits own waiting
        | false => exact apart own waiting
      · cases stepped
  | exit =>
      cases stepped
      exact others ⟨Nat.le_refl _, rfl, rfl, fun call member own => ⟨call, member, own, rfl⟩⟩
        (iff_of_true safe trivial)
  | enter =>
      simp only at stepped
      split at stepped
      · rename_i free
        cases stepped
        exact ⟨⟨once.ready, once.own, fun _ => free.1.2, once.made⟩, iff_of_true safe trivial⟩
      · cases stepped
  | wait batch =>
      simp only at stepped
      split at stepped
      · rename_i came
        cases stepped
        refine ⟨⟨came.2.1, fun call member own => ?_, fun waiting => ?_, fun id member => ?_⟩,
          iff_of_true ⟨safe.1, fun id member => placed.polled (came.2.2.1 id member)⟩ trivial⟩
        · rw [once.free came.1 call member] at own
          cases own
        · cases waiting
        · exact placed.polled_made (came.2.2.1 id member)
      · cases stepped
  | handle ended =>
      obtain ⟨onceNext, safeNext⟩ := once.handle safe stepped
      exact ⟨onceNext, iff_of_true safeNext trivial⟩
  | finish =>
      simp only at stepped
      split at stepped
      · rename_i free
        cases stepped
        refine ⟨⟨placed.accounted.listed.1, fun call member own => ?_, fun waiting => ?_,
          fun id member => ?_⟩, iff_of_true ⟨safe.1, placed.accounted.listed.2⟩ trivial⟩
        · rw [free.1.2 call member] at own
          cases own
        · rw [free.1.1] at waiting
          cases waiting
        · exact placed.made (Nat.add_pos_left (List.count_pos_iff.mpr member) _)
      · cases stepped

theorem initial_placed : ({} : TerminalItems).Placed :=
  ⟨fun _ => rfl, fun _ => rfl, fun _ => rfl, fun _ => rfl, fun finishing => nomatch finishing⟩

theorem initial_comesOnce : ({} : TerminalItems).ComesOnce where
  ready := List.nodup_nil
  own _ member := absurd member List.not_mem_nil
  free _ _ member := absurd member List.not_mem_nil
  made _ member := absurd member List.not_mem_nil

end

end TerminalItems

section

open TerminalItems

def closingRace : List ItemEvent :=
  [.createTerminal true true, .advance ⟨.insert, 0, false⟩, .enter, .wait [0], .closeTerminal 0,
    .advance ⟨.unpoll, 0, false⟩, .advance ⟨.onTerminalClosed, 0, false⟩,
    .advance ⟨.dec, 0, false⟩, .handle true]

example : (Transition.run itemStep {} closingRace).map (·.fault) = some (some .danglingItem) := by
  decide

end

end EasyViewer
