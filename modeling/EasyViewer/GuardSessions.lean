import EasyViewer.Framing
import EasyViewer.Library.Run
import EasyViewer.Protocol

/-!
The guard's connection to its server, as `Guard.cpp` and the clock of `MainWidget` drive
it. The receive buffer belongs to the guard and not to the connection: what a session
leaves in it is the beginning of the next one.
-/

namespace EasyViewer

inductive LoginAnswer where
  | unreadable
  | refused
  | granted
  deriving DecidableEq, Repr

/-- `received` and `dispatched` are the bytes and the messages of the last session; no step
reads them. -/
structure Guard where
  connected : Bool := false
  connecting : Bool := false
  disconnecting : Bool := false
  loggedIn : Bool := false
  loggingIn : Bool := false
  buffer : ByteBuffer := ByteBuffer.empty
  received : List UInt8 := []
  dispatched : List Frame := []

/-- Whether any length of message may follow the tag: the guard looks at it later. -/
def anyTag : UInt32 → Bool := fun _ => true

/-- The frames of a session, whatever their tags, as a decoder reads them that has seen
nothing else. -/
def sessionFrames (stream : List UInt8) : List Frame := (parse anyTag stream).frames

namespace Guard

section

variable (abilities : List (UInt32 → Bool)) (readLogin : List UInt8 → LoginAnswer)

def handleCompleteData (tag : UInt32) : Bool := abilities.any fun ability => ability tag

def handleResponseOfLogin (guard : Guard) (data : List UInt8) : Guard :=
  match readLogin data with
  | .unreadable => { guard with disconnecting := true }
  | .refused => { guard with loggingIn := false }
  | .granted => { guard with loggedIn := true, loggingIn := false }

/-- The `switch` over the tag. The `break` after an unknown tag leaves only the `switch`. -/
def dispatch (guard : Guard) (frame : Frame) : Guard :=
  let noted := { guard with dispatched := guard.dispatched ++ [frame] }
  if frame.tag = Tag.responseLogin then noted.handleResponseOfLogin readLogin frame.payload
  else if handleCompleteData abilities frame.tag then noted
  else { noted with disconnecting := true }

def moveReaderIndex (guard : Guard) (offset : Nat) : Guard :=
  { guard with buffer := guard.buffer.moveReaderIndex offset }

theorem dispatch_notes (guard : Guard) (frame : Frame) (offset : Nat) :
    let next := (guard.dispatch abilities readLogin frame).moveReaderIndex offset
    next.buffer.readableBytes = guard.buffer.readableBytes.drop offset ∧
      next.dispatched = guard.dispatched ++ [frame] ∧ next.connected = guard.connected ∧
      next.received = guard.received := by
  simp only [dispatch, handleResponseOfLogin, moveReaderIndex]
  split
  · split <;> exact ⟨ByteBuffer.moveReaderIndex_readableBytes .., rfl, rfl, rfl⟩
  · split <;> exact ⟨ByteBuffer.moveReaderIndex_readableBytes .., rfl, rfl, rfl⟩

def readMessages (guard : Guard) : Guard :=
  match _ : nextFrame anyTag guard.buffer.readableBytes with
  | .incomplete => guard
  | .oversize => { guard with disconnecting := true }
  | .unknownTag => guard
  | .frame frame =>
      readMessages
        ((guard.dispatch abilities readLogin frame).moveReaderIndex (frame.payload.length + 8))
termination_by guard.buffer.readableBytes.length
decreasing_by
  have bound := nextFrame_frame ‹_›
  rw [(guard.dispatch_notes abilities readLogin frame _).1, List.length_drop]
  omega

def whenReceivedData (guard : Guard) (data : List UInt8) : Guard :=
  { guard with
    buffer := guard.buffer.write data
    received := guard.received ++ data }.readMessages abilities readLogin

def whenConnected (guard : Guard) : Guard :=
  { guard with connected := true, connecting := false, received := [], dispatched := [] }

def whenConnectFailed (guard : Guard) : Guard := { guard with loggingIn := false }

def whenDisconnected (guard : Guard) : Guard :=
  { guard with connected := false, disconnecting := false, loggedIn := false, loggingIn := false }

/-- A second attempt while one is under way reports that the connection failed. -/
def connect (guard : Guard) : Guard :=
  if guard.connected then guard
  else if guard.connecting then guard.whenConnectFailed
  else { guard with connecting := true }

def login (guard : Guard) : Guard :=
  if guard.loggingIn || guard.loggedIn then guard else { guard with loggingIn := true }

def disconnect (guard : Guard) : Guard :=
  if guard.connected then { guard with disconnecting := true } else guard

end

end Guard

structure MainWidget where
  guard : Guard := {}
  cooldown : Int := 0

def maxCooldown : Int := 30

def MainWidget.tick (widget : MainWidget) : MainWidget :=
  if ¬ widget.guard.connected then
    if widget.cooldown ≤ 0 then { guard := widget.guard.connect, cooldown := maxCooldown }
    else if ¬ widget.guard.connecting then { widget with cooldown := widget.cooldown - 1 }
    else widget
  else if ¬ widget.guard.loggedIn then
    if ¬ widget.guard.loggingIn then { widget with guard := widget.guard.login } else widget
  else widget

inductive GuardEvent where
  | tick
  | connect
  | connected
  | connectFailed
  | received (data : List UInt8)
  | disconnect
  | disconnected
  deriving DecidableEq, Repr

section

variable (abilities : List (UInt32 → Bool)) (readLogin : List UInt8 → LoginAnswer)

def guardStep (widget : MainWidget) (event : GuardEvent) : Option MainWidget :=
  match event with
  | .tick => some widget.tick
  | .connect => some { widget with guard := widget.guard.connect }
  | .connected =>
      if widget.guard.connecting then some { widget with guard := widget.guard.whenConnected }
      else none
  | .connectFailed =>
      if widget.guard.connecting then
        some { widget with
          guard := { widget.guard with connecting := false }.whenConnectFailed }
      else none
  | .received data =>
      if widget.guard.connected then
        some { widget with guard := widget.guard.whenReceivedData abilities readLogin data }
      else none
  | .disconnect => some { widget with guard := widget.guard.disconnect }
  | .disconnected =>
      if widget.guard.connected then some { widget with guard := widget.guard.whenDisconnected }
      else none

/-- However the session goes on, its messages are those of its own bytes. -/
def MainWidget.SessionIsolated (widget : MainWidget) : Prop :=
  ∀ (chunks : List (List UInt8)) (final : MainWidget),
    Transition.run (guardStep abilities readLogin) widget (chunks.map GuardEvent.received) =
      some final →
      final.guard.dispatched = sessionFrames final.guard.received

def StartsEmpty (widget : MainWidget) : GuardEvent → Prop
  | .connected => widget.guard.buffer.numReadableBytes = 0
  | _ => True

theorem Guard.readMessages_parse (guard : Guard) :
    let result := guard.readMessages abilities readLogin
    result.buffer.readableBytes = (parse anyTag guard.buffer.readableBytes).rest ∧
      result.dispatched = guard.dispatched ++ sessionFrames guard.buffer.readableBytes ∧
      result.connected = guard.connected ∧ result.received = guard.received := by
  fun_induction Guard.readMessages abilities readLogin guard with
  | case1 guard decoded => simp [sessionFrames, parse_incomplete anyTag decoded]
  | case2 guard decoded => simp [sessionFrames, parse_cut anyTag (Or.inl decoded)]
  | case3 guard decoded => simp [sessionFrames, parse_cut anyTag (Or.inr decoded)]
  | case4 guard frame decoded ih =>
      obtain ⟨readable, dispatched, connected, received⟩ := ih
      have noted := guard.dispatch_notes abilities readLogin frame (frame.payload.length + 8)
      rw [noted.1] at readable dispatched
      rw [noted.2.1] at dispatched
      rw [noted.2.2.1] at connected
      rw [noted.2.2.2] at received
      simp only [sessionFrames, parse_frame anyTag decoded]
      refine ⟨readable, ?_, connected, received⟩
      simpa [sessionFrames] using dispatched

variable {abilities readLogin}

structure MainWidget.TakesIn (widget : MainWidget) (stream : List UInt8) (final : MainWidget) :
    Prop where
  connected : final.guard.connected = true
  received : final.guard.received = widget.guard.received ++ stream
  readable : final.guard.buffer.readableBytes =
    (parse anyTag (widget.guard.buffer.readableBytes ++ stream)).rest
  dispatched : final.guard.dispatched =
    widget.guard.dispatched ++ sessionFrames (widget.guard.buffer.readableBytes ++ stream)

theorem guardStep_received {widget next : MainWidget} {data : List UInt8}
    (stepped : guardStep abilities readLogin widget (.received data) = some next) :
    widget.TakesIn data next := by
  simp only [guardStep] at stepped
  split at stepped
  · rename_i connected
    cases stepped
    obtain ⟨readable, dispatched, stays, received⟩ :=
      Guard.readMessages_parse abilities readLogin
        { widget.guard with
          buffer := widget.guard.buffer.write data
          received := widget.guard.received ++ data }
    rw [ByteBuffer.write_readableBytes] at readable dispatched
    exact ⟨stays.trans connected, received, readable, dispatched⟩
  · contradiction

theorem MainWidget.TakesIn.trans {widget middle final : MainWidget} {first second : List UInt8}
    (before : widget.TakesIn first middle) (after : middle.TakesIn second final) :
    widget.TakesIn (first ++ second) final := by
  refine ⟨after.connected, ?_, ?_, ?_⟩
  · rw [after.received, before.received, List.append_assoc]
  · have resumed := parse_append anyTag (widget.guard.buffer.readableBytes ++ first) second
    rw [after.readable, before.readable, ← List.append_assoc, resumed]
  · have resumed := parse_append anyTag (widget.guard.buffer.readableBytes ++ first) second
    rw [after.dispatched, before.dispatched, before.readable, List.append_assoc,
      ← List.append_assoc widget.guard.buffer.readableBytes]
    simp only [sessionFrames]
    rw [resumed]

theorem takesIn_of_run {widget final : MainWidget} {data : List UInt8}
    {chunks : List (List UInt8)}
    (ran : Transition.run (guardStep abilities readLogin) widget
      ((data :: chunks).map GuardEvent.received) = some final) :
    widget.TakesIn (data :: chunks).flatten final := by
  induction chunks generalizing widget data with
  | nil =>
      obtain ⟨next, stepped, rest⟩ := (Transition.run_cons _).mp ran
      simp only [List.map_nil, Transition.run, Option.some.injEq] at rest
      subst rest
      simpa using guardStep_received stepped
  | cons other chunks ih =>
      obtain ⟨next, stepped, rest⟩ := (Transition.run_cons _).mp ran
      exact (guardStep_received stepped).trans (ih rest)

theorem run_of_connected {widget : MainWidget} (connected : widget.guard.connected = true)
    (data : List UInt8) : ∃ final,
      Transition.run (guardStep abilities readLogin) widget
        ([data].map GuardEvent.received) = some final := by
  simp [Transition.run, guardStep, connected]

theorem sessionIsolated_iff {widget : MainWidget} :
    widget.SessionIsolated abilities readLogin ↔
      widget.guard.dispatched = sessionFrames widget.guard.received ∧
        (widget.guard.connected = true → ∀ stream,
          widget.guard.dispatched ++ sessionFrames (widget.guard.buffer.readableBytes ++ stream) =
            sessionFrames (widget.guard.received ++ stream)) := by
  constructor
  · intro isolated
    refine ⟨isolated [] widget rfl, fun connected stream => ?_⟩
    obtain ⟨final, ran⟩ := run_of_connected connected stream
    have takesIn := takesIn_of_run ran
    have same := isolated [stream] final ran
    rw [takesIn.dispatched, takesIn.received] at same
    simpa using same
  · rintro ⟨sofar, later⟩ chunks final ran
    cases chunks with
    | nil =>
        simp only [List.map_nil, Transition.run, Option.some.injEq] at ran
        exact ran ▸ sofar
    | cons data chunks =>
        have connected : widget.guard.connected = true := by
          obtain ⟨next, stepped, _⟩ := (Transition.run_cons _).mp ran
          simp only [guardStep] at stepped
          split at stepped
          · assumption
          · contradiction
        have takesIn := takesIn_of_run ran
        rw [takesIn.dispatched, takesIn.received]
        exact later connected _

/-! Zeros are messages without contents: enough of them tell any two beginnings apart. -/

def zeros (count : Nat) : List UInt8 := List.replicate count 0

theorem nextFrame_zeros {count : Nat} (enough : 8 ≤ count) :
    nextFrame anyTag (zeros count) = .frame { tag := 0, payload := [] } := by
  have length : headerLength (zeros count) = 0 := by
    have four : min 4 (count - 4) = 4 := by omega
    simp [headerLength, zeros, four, List.replicate, LittleEndian.decode]
  have tag : headerTag (zeros count) = 0 := by
    have four : min 4 count = 4 := by omega
    simp [headerTag, zeros, four, List.replicate, LittleEndian.decode]
  have long : ¬ (zeros count).length < 8 := by simp only [zeros, List.length_replicate]; omega
  simp [nextFrame, length, tag, long, anyTag, maxLen]

theorem sessionFrames_incomplete {stream : List UInt8}
    (decoded : nextFrame anyTag stream = .incomplete) : sessionFrames stream = [] := by
  simp [sessionFrames, parse_incomplete anyTag decoded]

theorem sessionFrames_oversize {stream : List UInt8}
    (decoded : nextFrame anyTag stream = .oversize) : sessionFrames stream = [] := by
  simp [sessionFrames, parse_cut anyTag (Or.inl decoded)]

theorem sessionFrames_frame {stream : List UInt8} {frame : Frame}
    (decoded : nextFrame anyTag stream = .frame frame) : sessionFrames stream =
      frame :: sessionFrames (stream.drop (frame.payload.length + 8)) := by
  simp [sessionFrames, parse_frame anyTag decoded]

theorem sessionFrames_short {stream : List UInt8} (short : stream.length < 8) :
    sessionFrames stream = [] :=
  sessionFrames_incomplete (by simp [nextFrame, short])

theorem sessionFrames_zeros (count : Nat) :
    ∀ frame ∈ sessionFrames (zeros count), frame.payload = [] := by
  induction count using Nat.strongRecOn with
  | ind count ih =>
      by_cases enough : 8 ≤ count
      · rw [sessionFrames_frame (nextFrame_zeros enough)]
        intro frame listed
        rcases List.mem_cons.mp listed with rfl | listed
        · rfl
        · refine ih (count - 8) (by omega) frame ?_
          simpa [zeros] using listed
      · have short : (zeros count).length < 8 := by
          simp only [zeros, List.length_replicate]
          omega
        rw [sessionFrames_short short]
        intro frame listed
        contradiction

/-- Whatever a session finds in the buffer, some stream makes it show. -/
theorem leftover_seen {left : List UInt8} (remains : left ≠ []) :
    ∃ stream, sessionFrames (left ++ stream) ≠ sessionFrames stream := by
  have positive : 0 < left.length := List.length_pos_iff.mpr remains
  let padded := left ++ zeros (8 - left.length)
  have header : ¬ padded.length < 8 := by
    simp only [padded, zeros, List.length_append, List.length_replicate]
    omega
  have filled (count : Nat) : left ++ zeros (8 - left.length + count) = padded ++ zeros count := by
    simp only [padded, zeros, List.append_assoc, List.replicate_append_replicate]
  by_cases big : headerLength padded > maxLen
  · -- the guard waits for nothing more, and a fresh decoder finds a message
    refine ⟨zeros (8 - left.length + 8), ?_⟩
    have oversize : nextFrame anyTag padded = .oversize := by simp [nextFrame, header, big]
    rw [filled, sessionFrames_oversize (by rw [nextFrame_append _ (by simp [oversize]), oversize]),
      sessionFrames_frame (nextFrame_zeros (by omega))]
    simp
  · by_cases short : padded.length - 8 < headerLength padded
    · -- the bytes that are missing end a message with contents
      let missing := headerLength padded - (padded.length - 8)
      refine ⟨zeros (8 - left.length + missing), fun same => ?_⟩
      have whole : ¬ (padded ++ zeros missing).length < 8 := by
        simp only [List.length_append]
        omega
      have complete : (padded ++ zeros missing).length - 8 = headerLength padded := by
        simp only [List.length_append, zeros, List.length_replicate, missing]
        omega
      have decoded : nextFrame anyTag (padded ++ zeros missing) = .frame {
          tag := headerTag padded, payload := (padded ++ zeros missing).drop 8 } := by
        have length := headerLength_append (zeros missing) (by omega : 8 ≤ padded.length)
        have tag := headerTag_append (zeros missing) (by omega : 8 ≤ padded.length)
        have all : ((padded ++ zeros missing).drop 8).take (headerLength padded) =
            (padded ++ zeros missing).drop 8 :=
          List.take_of_length_le (by rw [List.length_drop]; omega)
        simp only [nextFrame, whole, length, big, complete, lt_irrefl, anyTag, tag, all, if_true,
          if_false]
      rw [filled, sessionFrames_frame decoded] at same
      have empty : (padded ++ zeros missing).drop 8 = [] :=
        sessionFrames_zeros _ _ (same ▸ List.mem_cons_self)
      have contents : ((padded ++ zeros missing).drop 8).length = headerLength padded := by
        rw [List.length_drop]
        exact complete
      rw [empty, List.length_nil] at contents
      omega
    · -- the bytes that are missing end the header of a message that is there already
      refine ⟨zeros (8 - left.length), ?_⟩
      have decoded : ∃ frame, nextFrame anyTag padded = .frame frame := by
        simp [nextFrame, header, big, short, anyTag]
      obtain ⟨frame, decoded⟩ := decoded
      have fresh : sessionFrames (zeros (8 - left.length)) = [] := by
        apply sessionFrames_short
        simp only [zeros, List.length_replicate]
        omega
      rw [fresh, show left ++ zeros (8 - left.length) = padded from rfl,
        sessionFrames_frame decoded]
      simp

theorem isolated_connected {widget : MainWidget} :
    MainWidget.SessionIsolated abilities readLogin
        { widget with guard := widget.guard.whenConnected } ↔
      widget.guard.buffer.numReadableBytes = 0 := by
  have nothing : sessionFrames [] = [] := sessionFrames_short (by simp)
  rw [sessionIsolated_iff, ← ByteBuffer.readableBytes_length, List.length_eq_zero_iff]
  simp only [Guard.whenConnected, List.nil_append, nothing, true_implies, true_and]
  constructor
  · intro isolated
    by_contra remains
    obtain ⟨stream, apart⟩ := leftover_seen remains
    exact apart (isolated stream)
  · intro empty stream
    rw [empty, List.nil_append]

theorem Guard.connect_session (guard : Guard) :
    guard.connect.connected = guard.connected ∧ guard.connect.buffer = guard.buffer ∧
      guard.connect.received = guard.received ∧ guard.connect.dispatched = guard.dispatched := by
  simp only [Guard.connect]
  split
  · exact ⟨rfl, rfl, rfl, rfl⟩
  · split <;> exact ⟨rfl, rfl, rfl, rfl⟩

theorem SessionIsolated.congr {widget next : MainWidget}
    (isolated : widget.SessionIsolated abilities readLogin)
    (same : next.guard.connected = widget.guard.connected ∧
      next.guard.buffer = widget.guard.buffer ∧ next.guard.received = widget.guard.received ∧
      next.guard.dispatched = widget.guard.dispatched) :
    next.SessionIsolated abilities readLogin := by
  rw [sessionIsolated_iff] at isolated ⊢
  rw [same.1, same.2.1, same.2.2.1, same.2.2.2]
  exact isolated

theorem MainWidget.tick_session (widget : MainWidget) :
    widget.tick.guard.connected = widget.guard.connected ∧
      widget.tick.guard.buffer = widget.guard.buffer ∧
      widget.tick.guard.received = widget.guard.received ∧
      widget.tick.guard.dispatched = widget.guard.dispatched := by
  simp only [MainWidget.tick]
  split
  · split
    · exact widget.guard.connect_session
    · split <;> exact ⟨rfl, rfl, rfl, rfl⟩
  · split
    · split
      · simp only [Guard.login]
        split <;> exact ⟨rfl, rfl, rfl, rfl⟩
      · exact ⟨rfl, rfl, rfl, rfl⟩
    · exact ⟨rfl, rfl, rfl, rfl⟩

theorem isolated_step {widget next : MainWidget} {event : GuardEvent}
    (isolated : widget.SessionIsolated abilities readLogin)
    (stepped : guardStep abilities readLogin widget event = some next) :
    next.SessionIsolated abilities readLogin ↔ StartsEmpty widget event := by
  cases event with
  | tick =>
      cases stepped
      exact iff_of_true (SessionIsolated.congr isolated widget.tick_session) trivial
  | connect =>
      cases stepped
      exact iff_of_true (SessionIsolated.congr isolated widget.guard.connect_session) trivial
  | connected =>
      simp only [guardStep] at stepped
      split at stepped
      · cases stepped
        exact isolated_connected
      · contradiction
  | connectFailed =>
      simp only [guardStep] at stepped
      split at stepped
      · cases stepped
        exact iff_of_true (SessionIsolated.congr isolated ⟨rfl, rfl, rfl, rfl⟩) trivial
      · contradiction
  | received data =>
      refine iff_of_true (fun chunks final ran => ?_) trivial
      exact isolated (data :: chunks) final ((Transition.run_cons _).mpr ⟨next, stepped, ran⟩)
  | disconnect =>
      cases stepped
      refine iff_of_true (SessionIsolated.congr isolated ?_) trivial
      simp only [Guard.disconnect]
      split <;> exact ⟨rfl, rfl, rfl, rfl⟩
  | disconnected =>
      simp only [guardStep] at stepped
      split at stepped
      · cases stepped
        rw [sessionIsolated_iff] at isolated ⊢
        refine iff_of_true ⟨isolated.1, ?_⟩ trivial
        intro connected
        contradiction
      · contradiction

end

/-- In every run: however each session goes on, its messages are those of its own bytes, just
when every session starts with an empty buffer. -/
theorem sessions_isolated_iff (abilities : List (UInt32 → Bool))
    (readLogin : List UInt8 → LoginAnswer) (events : List GuardEvent) :
    Transition.Throughout (guardStep abilities readLogin)
        (MainWidget.SessionIsolated abilities readLogin) {} events ↔
      Transition.Happening (guardStep abilities readLogin) StartsEmpty {} events := by
  apply Transition.Throughout.iff_happening _ (fun _ => True)
  · intro widget event next _ isolated stepped
    exact ⟨trivial, isolated_step isolated stepped⟩
  · trivial
  · have nothing : sessionFrames [] = [] := sessionFrames_short (by simp)
    rw [sessionIsolated_iff]
    refine ⟨nothing.symm, ?_⟩
    intro connected
    contradiction

theorem guardStep_waits {abilities : List (UInt32 → Bool)}
    {readLogin : List UInt8 → LoginAnswer} {widget : MainWidget} {data : List UInt8}
    (connected : widget.guard.connected = true)
    (waits : nextFrame anyTag (widget.guard.buffer.readableBytes ++ data) = .incomplete) :
    guardStep abilities readLogin widget (.received data) = some { widget with
      guard := { widget.guard with
        buffer := widget.guard.buffer.write data
        received := widget.guard.received ++ data } } := by
  simp only [guardStep, connected, if_true, Guard.whenReceivedData]
  rw [Guard.readMessages]
  rw [← ByteBuffer.write_readableBytes] at waits
  split
  · rfl
  · simp_all
  · simp_all
  · simp_all

def lostMidHeader : List GuardEvent := [
  .tick, .connected, .received [5, 0, 0, 0], .disconnected,
  .connect, .connected, .received [102, 0, 0, 0, 0, 0, 0, 0]]

theorem run_reconnected (buffer : ByteBuffer) (received : List UInt8) :
    Transition.run (guardStep [] fun _ => .unreadable)
      { guard := { connected := true, buffer := buffer, received := received }
        cooldown := maxCooldown }
      [.disconnected, .connect, .connected] =
      some { guard := { connected := true, buffer := buffer }, cooldown := maxCooldown } := rfl

/-- The guard takes the tag of the message for a length, and goes on waiting. -/
theorem lostMidHeader_mixed : ∃ widget,
    Transition.run (guardStep [] fun _ => .unreadable) {} lostMidHeader = some widget ∧
      widget.guard.dispatched ≠ sessionFrames widget.guard.received := by
  let begun : ByteBuffer := ByteBuffer.empty.write [5, 0, 0, 0]
  let again : MainWidget :=
    { guard := { connected := true, buffer := begun, received := [] }, cooldown := maxCooldown }
  have first : nextFrame anyTag (ByteBuffer.empty.readableBytes ++ [5, 0, 0, 0]) =
      .incomplete := by decide
  have second : nextFrame anyTag (again.guard.buffer.readableBytes ++
      [102, 0, 0, 0, 0, 0, 0, 0]) = .incomplete := by
    simp only [again, begun]
    rw [ByteBuffer.write_readableBytes, ByteBuffer.empty_readableBytes]
    decide
  have lost : Transition.run (guardStep [] fun _ => .unreadable) {} [
      .tick, .connected, .received [5, 0, 0, 0], .disconnected, .connect, .connected] =
      some again := by
    refine (Transition.run_cons _).mpr ⟨_, rfl, (Transition.run_cons _).mpr ⟨_, rfl, ?_⟩⟩
    refine (Transition.run_cons _).mpr ⟨_, guardStep_waits rfl first, ?_⟩
    exact run_reconnected begun [5, 0, 0, 0]
  have message : sessionFrames [102, 0, 0, 0, 0, 0, 0, 0] ≠ [] := by
    have decoded : nextFrame anyTag [102, 0, 0, 0, 0, 0, 0, 0] =
        .frame { tag := 102, payload := [] } := by decide
    rw [sessionFrames_frame decoded]
    simp
  obtain ⟨final, isFinal, received, dispatched⟩ : ∃ final : MainWidget,
      guardStep [] (fun _ => .unreadable) again (.received [102, 0, 0, 0, 0, 0, 0, 0]) =
        some final ∧ final.guard.received = [102, 0, 0, 0, 0, 0, 0, 0] ∧
        final.guard.dispatched = [] :=
    ⟨_, guardStep_waits rfl second, rfl, rfl⟩
  refine ⟨final, ?_, ?_⟩
  · refine (@Transition.run_append _ _ _ _ _ [_, _, _, _, _, _] _).mpr ⟨again, lost, ?_⟩
    exact (Transition.run_cons _).mpr ⟨final, isFinal, rfl⟩
  · rw [received, dispatched]
    exact message.symm

end EasyViewer
