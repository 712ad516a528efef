import EasyViewer.Library.Run
import Mathlib.Data.List.Basic

/-!
`TCP::Client` over its attempts and connections: what its event loop reports while other threads
connect and disconnect. A callback stands between two stages of the loop, so what it calls may
come there as another thread's.
-/

namespace EasyViewer

/-- `onConnected`, `onConnectFailed` and `onDisconnected`. A failure says whether its reason is
`STR_FORCED_CLOSURE`, and whether `disconnect` was called during the attempt. -/
inductive TcpReport where
  | connected
  | connectFailed (forced asked : Bool)
  | disconnected
  deriving DecidableEq, Repr

/-- What the event loop has to do next: in the attempt's callback behind `getsockopt`, or in
`handleEvents`, where `received` is the callback of `recv0`. -/
inductive TcpClientStage where
  | settle (err writable : Bool)
  | onConnected
  | onConnectFailed (forced asked : Bool)
  | release
  | received (err : Bool)
  | finish (err : Bool)
  | onDisconnected
  | settled
  deriving DecidableEq, Repr

/-- Histories: whether `disconnect` was called during the attempt, the attempts that have begun,
the calls of `connect` that failed at once and those refused, and what the loop reported. -/
structure TcpClient where
  connected : Bool := false
  connecting : Bool := false
  canceling : Bool := false
  disconnecting : Bool := false
  detained : Nat := 0
  loop : Option TcpClientStage := none
  asked : Bool := false
  begun : Nat := 0
  failedAtOnce : Nat := 0
  refused : Nat := 0
  reports : List TcpReport := []
  deriving DecidableEq, Repr

namespace TcpClient

/-- Whether `::connect` has begun depends on the socket. -/
def connect (client : TcpClient) (begins : Bool) : TcpClient :=
  if client.connected || client.connecting then { client with refused := client.refused + 1 }
  else if begins then
    { client with connecting := true, asked := false, begun := client.begun + 1 }
  else { client with failedAtOnce := client.failedAtOnce + 1 }

def disconnect (client : TcpClient) : TcpClient :=
  if client.connected then { client with disconnecting := true }
  else { client with canceling := true, asked := client.asked || client.connecting }

def settle (client : TcpClient) (err writable : Bool) : TcpClient :=
  if ¬ err ∧ writable ∧ ¬ client.canceling then
    { client with connected := true, connecting := false, loop := some .onConnected }
  else
    { client with
      detained := client.detained + 1
      connecting := false
      canceling := false
      loop := some (.onConnectFailed client.canceling client.asked) }

def finish (client : TcpClient) (err : Bool) : TcpClient :=
  if (client.disconnecting ∨ err) ∧ client.connected then
    { client with connected := false, loop := some .onDisconnected }
  else { client with loop := none }

def report (client : TcpClient) (report : TcpReport) (stage : Option TcpClientStage) :
    TcpClient :=
  { client with reports := client.reports ++ [report], loop := stage }

def perform (client : TcpClient) : TcpClientStage → TcpClient
  | .settle err writable => client.settle err writable
  | .onConnected => client.report .connected none
  | .onConnectFailed forced asked => client.report (.connectFailed forced asked) (some .release)
  | .release => { client with detained := client.detained - 1, loop := none }
  | .received err => { client with loop := some (.finish err) }
  | .finish err => client.finish err
  | .onDisconnected => client.report .disconnected (some .settled)
  | .settled => { client with disconnecting := false, loop := none }

end TcpClient

inductive TcpClientEvent where
  | connect (begins : Bool)
  | disconnect
  | attempt (err writable : Bool)
  | handleEvents (data err : Bool)
  | advance
  deriving DecidableEq, Repr

/-- `syncDisconnect` is `disconnect` and then looking until the client is at rest. -/
def tcpClientStep (client : TcpClient) : TcpClientEvent → Option TcpClient
  | .connect begins => some (client.connect begins)
  | .disconnect => some client.disconnect
  | .attempt err writable =>
      if client.connecting ∧ client.loop = none then
        some { client with loop := some (.settle err writable) }
      else none
  | .handleEvents data err =>
      if client.connected ∧ client.loop = none then
        some { client with loop := some (if data then .received err else .finish err) }
      else none
  | .advance => client.loop.map client.perform

def TcpReport.next : Bool → TcpReport → Option Bool
  | false, .connected => some true
  | false, .connectFailed _ _ => some false
  | true, .disconnected => some false
  | _, _ => none

def TcpReport.isOutcome : TcpReport → Bool
  | .connected | .connectFailed _ _ => true
  | .disconnected => false

def TcpClientStage.outcome : TcpClientStage → Nat
  | .onConnected | .onConnectFailed _ _ => 1
  | .settle _ _ | .release | .received _ | .finish _ | .onDisconnected | .settled => 0

namespace TcpClient

def outcomes (client : TcpClient) : Nat := client.reports.countP TcpReport.isOutcome

def underWay (client : TcpClient) : Nat :=
  (if client.connecting then 1 else 0) + (client.loop.map TcpClientStage.outcome).getD 0

/-- A connection is reported, and its end before anything else is; each attempt has one outcome,
or is under way. -/
structure Orderly (client : TcpClient) : Prop where
  order : (Transition.run TcpReport.next false client.reports).isSome = true
  counted : client.begun = client.outcomes + client.underWay

/-- What `~Client` waits for, in `Client::syncDisconnect` and in that of `Connection`. -/
def AtRest (client : TcpClient) : Prop :=
  client.connected = false ∧ client.connecting = false ∧ client.detained = 0 ∧
    client.disconnecting = false

def Released (client : TcpClient) : Prop := client.AtRest → client.loop = none

/-- No connection ends that nobody has asked to end. -/
def EndsOnRequest (client : TcpClient) : TcpClientEvent → Prop
  | .advance => client.loop = some (.finish true) → client.disconnecting = true
  | _ => True

/-- A cancellation is of the attempt under way, and so was every one that was reported. -/
structure CancelsAttempts (client : TcpClient) : Prop where
  canceling : client.canceling = true → client.connecting = true ∧ client.asked = true
  failing : ∀ asked, client.loop = some (.onConnectFailed true asked) → asked = true
  failed : ∀ asked, .connectFailed true asked ∈ client.reports → asked = true

/-- `disconnect` is called on a connection or during an attempt. -/
def Disconnectable (client : TcpClient) : TcpClientEvent → Prop
  | .disconnect => client.connected = true ∨ client.connecting = true
  | _ => True

def up (client : TcpClient) : Bool :=
  match client.loop with
  | some .onConnected => false
  | some .onDisconnected => true
  | _ => client.connected

end TcpClient

def TcpClientStage.detained : TcpClientStage → Nat
  | .onConnectFailed _ _ | .release => 1
  | .settle _ _ | .onConnected | .received _ | .finish _ | .onDisconnected | .settled => 0

def TcpClientStage.Fits (client : TcpClient) : TcpClientStage → Prop
  | .settle _ _ => client.connecting = true
  | .onConnected | .received _ | .finish _ => client.connected = true
  | .onConnectFailed _ _ | .release | .onDisconnected | .settled => client.connected = false

namespace TcpClient

structure Sound (client : TcpClient) : Prop where
  apart : client.connected = true → client.connecting = false
  reported : Transition.run TcpReport.next false client.reports = some client.up
  counted : client.begun = client.outcomes + client.underWay
  detains : client.detained = (client.loop.map TcpClientStage.detained).getD 0
  fits : ∀ stage, client.loop = some stage → stage.Fits client
  closes : client.disconnecting = true → client.connected = true ∨
    client.loop = some .onDisconnected ∨ client.loop = some .settled

variable {client next : TcpClient} {event : TcpClientEvent}

theorem Sound.orderly (sound : client.Sound) : client.Orderly :=
  ⟨by rw [sound.reported, Option.isSome_some], sound.counted⟩

theorem Sound.connect (sound : client.Sound) (begins : Bool) : (client.connect begins).Sound := by
  have counted := sound.counted
  rw [TcpClient.connect]
  split
  · exact ⟨sound.apart, sound.reported, counted, sound.detains, sound.fits, sound.closes⟩
  · rename_i idle
    simp only [Bool.or_eq_true, not_or, Bool.not_eq_true] at idle
    split
    · refine ⟨fun connected => ?_, sound.reported, ?_, sound.detains, fun stage isAt => ?_,
        sound.closes⟩
      · rw [idle.1] at connected
        cases connected
      · simp only [underWay, idle.2, Bool.false_eq_true, if_false] at counted
        show client.begun + 1 =
          client.outcomes + (1 + (client.loop.map TcpClientStage.outcome).getD 0)
        omega
      · cases stage with
        | settle err writable => rfl
        | _ => exact sound.fits _ isAt
    · exact ⟨sound.apart, sound.reported, counted, sound.detains, sound.fits, sound.closes⟩

theorem Sound.disconnect (sound : client.Sound) : client.disconnect.Sound := by
  rw [TcpClient.disconnect]
  split
  · rename_i connected
    exact ⟨sound.apart, sound.reported, sound.counted, sound.detains, sound.fits,
      fun _ => .inl connected⟩
  · exact ⟨sound.apart, sound.reported, sound.counted, sound.detains, sound.fits, sound.closes⟩

theorem Sound.begin {stage : TcpClientStage} (sound : client.Sound) (idle : client.loop = none)
    (fits : stage.Fits client) (silent : stage.outcome = 0) (free : stage.detained = 0)
    (same : { client with loop := some stage }.up = client.up) :
    { client with loop := some stage }.Sound := by
  have counted := sound.counted
  have detains := sound.detains
  have closes := sound.closes
  simp only [underWay, idle] at counted
  simp only [idle] at detains closes
  refine ⟨sound.apart, same ▸ sound.reported, ?_, ?_, fun other isAt => ?_, fun closing => ?_⟩
  · show client.begun = client.outcomes + (_ + stage.outcome)
    rw [silent]
    exact counted
  · exact detains.trans free.symm
  · cases isAt
    exact fits
  · exact .inl ((closes closing).resolve_right (by simp))

theorem run_report {reports : List TcpReport} {report : TcpReport} {before after : Bool}
    (reported : Transition.run TcpReport.next false reports = some before)
    (follows : TcpReport.next before report = some after) :
    Transition.run TcpReport.next false (reports ++ [report]) = some after := by
  refine (Transition.run_append TcpReport.next).mpr ⟨before, reported, ?_⟩
  exact (Transition.run_cons TcpReport.next).mpr ⟨after, follows, rfl⟩

@[simp] theorem outcomes_report (client : TcpClient) (report : TcpReport)
    (stage : Option TcpClientStage) : (client.report report stage).outcomes =
      client.outcomes + if report.isOutcome = true then 1 else 0 := by
  simp [outcomes, TcpClient.report, List.countP_append, List.countP_cons]

section

variable {stage : TcpClientStage}

theorem Sound.count (sound : client.Sound) (isAt : client.loop = some stage) :
    client.begun = client.outcomes + ((if client.connecting then 1 else 0) + stage.outcome) := by
  have counted := sound.counted
  rwa [underWay, isAt, Option.map_some, Option.getD_some] at counted

theorem Sound.detain (sound : client.Sound) (isAt : client.loop = some stage) :
    client.detained = stage.detained := by
  rw [sound.detains, isAt, Option.map_some, Option.getD_some]

theorem Sound.open (sound : client.Sound) (down : client.connected = false)
    (isAt : client.loop = some stage) (apart : stage ≠ .onDisconnected ∧ stage ≠ .settled) :
    client.disconnecting = false := by
  rw [← Bool.not_eq_true]
  intro closing
  have reason := sound.closes closing
  rw [isAt, down] at reason
  simp [apart] at reason

theorem Sound.settle {err writable : Bool} (sound : client.Sound)
    (isAt : client.loop = some (.settle err writable)) : (client.settle err writable).Sound := by
  have connecting : client.connecting = true := sound.fits _ isAt
  have down : client.connected = false := by
    rw [← Bool.not_eq_true]
    intro connected
    rw [sound.apart connected] at connecting
    cases connecting
  have reported : Transition.run TcpReport.next false client.reports = some false := by
    rw [sound.reported, up, isAt, down]
  have counted := sound.count isAt
  rw [connecting, if_pos rfl] at counted
  rw [TcpClient.settle]
  split
  · refine ⟨fun _ => rfl, reported, ?_, sound.detain isAt, fun stage isNext => ?_, fun _ => .inl rfl⟩
    · show client.begun = client.outcomes + (0 + 1)
      exact counted
    · cases isNext
      rfl
  · refine ⟨fun _ => rfl, ?_, ?_, ?_, fun stage isNext => ?_, fun closing => ?_⟩
    · show Transition.run TcpReport.next false client.reports = some client.connected
      rw [reported, down]
    · show client.begun = client.outcomes + (0 + 1)
      exact counted
    · show client.detained + 1 = 1
      rw [sound.detain isAt]
      rfl
    · cases isNext
      exact down
    · have steady := sound.open down isAt (by simp)
      exact absurd closing (by simp [steady])

theorem Sound.finish {err : Bool} (sound : client.Sound)
    (isAt : client.loop = some (.finish err)) : (client.finish err).Sound := by
  have connected : client.connected = true := sound.fits _ isAt
  have reported : Transition.run TcpReport.next false client.reports = some true := by
    rw [sound.reported, up, isAt, connected]
  have counted := sound.count isAt
  rw [TcpClient.finish]
  split
  · refine ⟨fun up => (nomatch up), reported, counted, sound.detain isAt, fun stage isNext => ?_,
      fun _ => .inr (.inl rfl)⟩
    cases isNext
    rfl
  · refine ⟨sound.apart, ?_, counted, sound.detain isAt, fun stage isNext => (nomatch isNext),
      fun _ => .inl connected⟩
    show Transition.run TcpReport.next false client.reports = some client.connected
    rw [reported, connected]

theorem Sound.perform (sound : client.Sound) (isAt : client.loop = some stage) :
    (client.perform stage).Sound := by
  have counted := sound.count isAt
  have detains := sound.detain isAt
  have fits := sound.fits stage isAt
  have reported := sound.reported
  simp only [up, isAt] at reported
  cases stage with
  | settle err writable => exact sound.settle isAt
  | onConnected =>
      refine ⟨sound.apart, ?_, ?_, detains, fun _ isNext => (nomatch isNext), fun _ => .inl fits⟩
      · show Transition.run TcpReport.next false (client.reports ++ [.connected]) =
          some client.connected
        rw [fits]
        exact run_report reported rfl
      · show client.begun = (client.report .connected none).outcomes +
          ((if client.connecting then 1 else 0) + 0)
        rw [outcomes_report, counted]
        simp only [TcpReport.isOutcome, TcpClientStage.outcome, if_true]
        omega
  | onConnectFailed forced asked =>
      refine ⟨sound.apart, ?_, ?_, detains, fun stage isNext => ?_, fun closing => ?_⟩
      · show Transition.run TcpReport.next false (client.reports ++ [_]) = some client.connected
        rw [fits] at reported ⊢
        exact run_report reported rfl
      · show client.begun = (client.report (.connectFailed forced asked) none).outcomes +
          ((if client.connecting then 1 else 0) + 0)
        rw [outcomes_report, counted]
        simp only [TcpReport.isOutcome, TcpClientStage.outcome, if_true]
        omega
      · cases isNext
        exact fits
      · have steady := sound.open fits isAt (by simp)
        exact absurd closing (by simp [TcpClient.perform, TcpClient.report, steady])
  | release =>
      refine ⟨sound.apart, reported, counted, ?_, fun _ isNext => (nomatch isNext), fun closing => ?_⟩
      · show client.detained - 1 = 0
        rw [detains]
        rfl
      · have steady := sound.open fits isAt (by simp)
        exact absurd closing (by simp [TcpClient.perform, steady])
  | received err =>
      refine ⟨sound.apart, reported, counted, detains, fun stage isNext => ?_, fun _ => .inl fits⟩
      cases isNext
      exact fits
  | finish err => exact sound.finish isAt
  | onDisconnected =>
      refine ⟨sound.apart, ?_, ?_, detains, fun stage isNext => ?_, fun _ => .inr (.inr rfl)⟩
      · show Transition.run TcpReport.next false (client.reports ++ [.disconnected]) =
          some client.connected
        rw [fits]
        exact run_report reported rfl
      · show client.begun = (client.report .disconnected none).outcomes +
          ((if client.connecting then 1 else 0) + 0)
        rw [outcomes_report, counted]
        simp only [TcpReport.isOutcome, TcpClientStage.outcome, Bool.false_eq_true, if_false]
        omega
      · cases isNext
        exact fits
  | settled =>
      exact ⟨sound.apart, reported, counted, detains, fun _ isNext => (nomatch isNext),
        fun closing => nomatch closing⟩

end

theorem Sound.step (sound : client.Sound) (stepped : tcpClientStep client event = some next) :
    next.Sound := by
  cases event with
  | connect begins =>
      cases stepped
      exact sound.connect begins
  | disconnect =>
      cases stepped
      exact sound.disconnect
  | attempt err writable =>
      simp only [tcpClientStep] at stepped
      split at stepped
      · rename_i armed
        cases stepped
        refine sound.begin armed.2 armed.1 rfl rfl ?_
        rw [up, up, armed.2]
      · cases stepped
  | handleEvents data err =>
      simp only [tcpClientStep] at stepped
      split at stepped
      · rename_i ready
        cases stepped
        split
        · refine sound.begin ready.2 ready.1 rfl rfl ?_
          rw [up, up, ready.2]
        · refine sound.begin ready.2 ready.1 rfl rfl ?_
          rw [up, up, ready.2]
      · cases stepped
  | advance =>
      obtain ⟨stage, isAt, rfl⟩ := Option.map_eq_some_iff.mp stepped
      exact sound.perform isAt

theorem initial_sound : ({} : TcpClient).Sound :=
  ⟨fun _ => rfl, rfl, rfl, rfl, fun _ isAt => (nomatch isAt), fun closing => nomatch closing⟩

theorem Sound.released_iff (sound : client.Sound) : client.Released ↔
    ((client.loop = some .onDisconnected ∨ client.loop = some .settled) →
      client.connecting = false → client.disconnecting = true) := by
  have detains := sound.detains
  constructor
  · intro released closing idle
    by_contra quiet
    rw [Bool.not_eq_true] at quiet
    have down : client.connected = false := by
      rcases closing with isAt | isAt
      · exact sound.fits _ isAt
      · exact sound.fits _ isAt
    have free : client.detained = 0 := by
      rcases closing with isAt | isAt
      · rw [detains, isAt]
        rfl
      · rw [detains, isAt]
        rfl
    have none := released ⟨down, idle, free, quiet⟩
    rw [none] at closing
    simp at closing
  · rintro asked ⟨down, idle, free, quiet⟩
    cases isAt : client.loop with
    | none => rfl
    | some stage =>
        have fits := sound.fits stage isAt
        have detained := sound.detain isAt
        cases stage with
        | settle err writable => exact absurd (idle.symm.trans fits) (by decide)
        | onConnected | received err | finish err => exact absurd (down.symm.trans fits) (by decide)
        | onConnectFailed forced wanted | release =>
            rw [free] at detained
            cases detained
        | onDisconnected => exact absurd (quiet.symm.trans (asked (.inl isAt) idle)) (by decide)
        | settled => exact absurd (quiet.symm.trans (asked (.inr isAt) idle)) (by decide)

/-- A connection that is closing was asked to end. -/
def ClosesAsked (client : TcpClient) : Prop :=
  client.loop = some .onDisconnected ∨ client.loop = some .settled → client.disconnecting = true

theorem Sound.finish_closesAsked {err : Bool} (sound : client.Sound)
    (isAt : client.loop = some (.finish err)) :
    ((client.finish err).Released → (client.finish err).ClosesAsked) ∧
      ((client.finish err).ClosesAsked ↔ (err = true → client.disconnecting = true)) := by
  have connected : client.connected = true := sound.fits _ isAt
  have idle := sound.apart connected
  have after := (sound.finish isAt).released_iff
  rw [TcpClient.finish] at after ⊢
  split
  · rename_i ends
    rw [if_pos ends] at after
    refine ⟨fun released closing => after.mp released closing idle, ?_⟩
    constructor
    · exact fun asked _ => asked (.inl rfl)
    · intro asked _
      exact ends.1.elim id asked
  · rename_i stays
    have silent : { client with loop := none }.ClosesAsked := fun closing => by simp at closing
    refine ⟨fun _ => silent, iff_of_true silent fun isErr => ?_⟩
    exact absurd ⟨.inr isErr, connected⟩ stays

theorem closesAsked_exact (sound : client.Sound) (asked : client.ClosesAsked)
    (stepped : tcpClientStep client event = some next) :
    (next.Released → next.ClosesAsked) ∧ (next.ClosesAsked ↔ client.EndsOnRequest event) := by
  have whenever (closes : next.ClosesAsked) (allowed : client.EndsOnRequest event) :
      (next.Released → next.ClosesAsked) ∧ (next.ClosesAsked ↔ client.EndsOnRequest event) :=
    ⟨fun _ => closes, iff_of_true closes allowed⟩
  cases event with
  | connect begins =>
      cases stepped
      refine whenever ?_ trivial
      rw [TcpClient.connect]
      split
      · exact asked
      · split
        · exact asked
        · exact asked
  | disconnect =>
      cases stepped
      refine whenever ?_ trivial
      rw [TcpClient.disconnect]
      split
      · exact fun _ => rfl
      · exact asked
  | attempt err writable =>
      simp only [tcpClientStep] at stepped
      split at stepped
      · cases stepped
        exact whenever (fun closing => by simp at closing) trivial
      · cases stepped
  | handleEvents data err =>
      simp only [tcpClientStep] at stepped
      split at stepped
      · cases stepped
        refine whenever (fun closing => ?_) trivial
        cases data with
        | true => simp at closing
        | false => simp at closing
      · cases stepped
  | advance =>
      obtain ⟨stage, isAt, rfl⟩ := Option.map_eq_some_iff.mp stepped
      have allowed (other : stage ≠ .finish true) : client.EndsOnRequest .advance := by
        intro finishing
        rw [isAt, Option.some.injEq] at finishing
        exact absurd finishing other
      cases stage with
      | settle err writable =>
          refine whenever ?_ (allowed (by simp))
          simp only [TcpClient.perform, TcpClient.settle]
          split
          · exact fun closing => by simp at closing
          · exact fun closing => by simp at closing
      | onConnected | onConnectFailed forced wanted | release | received err | settled =>
          exact whenever (fun closing => by simp [TcpClient.perform, TcpClient.report] at closing)
            (allowed (by simp))
      | onDisconnected => exact whenever (fun _ => asked (.inl isAt)) (allowed (by simp))
      | finish err =>
          obtain ⟨released, exact⟩ := sound.finish_closesAsked isAt
          refine ⟨released, exact.trans ?_⟩
          constructor
          · intro ends finishing
            rw [isAt, Option.some.injEq, TcpClientStage.finish.injEq] at finishing
            exact ends finishing
          · rintro ends rfl
            exact ends isAt

theorem CancelsAttempts.connect (cancels : client.CancelsAttempts) (begins : Bool) :
    (client.connect begins).CancelsAttempts := by
  rw [TcpClient.connect]
  split
  · exact ⟨cancels.canceling, cancels.failing, cancels.failed⟩
  · rename_i idle
    simp only [Bool.or_eq_true, not_or, Bool.not_eq_true] at idle
    split
    · refine ⟨fun canceling => ?_, cancels.failing, cancels.failed⟩
      have during := (cancels.canceling canceling).1
      rw [idle.2] at during
      cases during
    · exact ⟨cancels.canceling, cancels.failing, cancels.failed⟩

theorem CancelsAttempts.disconnect_iff (cancels : client.CancelsAttempts) :
    client.disconnect.CancelsAttempts ↔ client.connected = true ∨ client.connecting = true := by
  rw [TcpClient.disconnect]
  split
  · rename_i connected
    exact iff_of_true ⟨cancels.canceling, cancels.failing, cancels.failed⟩ (.inl connected)
  · rename_i down
    constructor
    · exact fun after => .inr (after.canceling rfl).1
    · intro meets
      have during := meets.resolve_left down
      refine ⟨fun _ => ⟨during, ?_⟩, cancels.failing, cancels.failed⟩
      show (client.asked || client.connecting) = true
      rw [during, Bool.or_true]

theorem CancelsAttempts.perform {stage : TcpClientStage} (cancels : client.CancelsAttempts)
    (isAt : client.loop = some stage) : (client.perform stage).CancelsAttempts := by
  have silent {reports : List TcpReport} {other : TcpReport}
      (unforced : ∀ asked, other = .connectFailed true asked → asked = true)
      (before : ∀ asked, .connectFailed true asked ∈ reports → asked = true) (asked : Bool)
      (member : .connectFailed true asked ∈ reports ++ [other]) : asked = true := by
    rcases List.mem_append.mp member with earlier | last
    · exact before asked earlier
    · exact unforced asked (List.mem_singleton.mp last).symm
  cases stage with
  | settle err writable =>
      simp only [TcpClient.perform, TcpClient.settle]
      split
      · rename_i opens
        refine ⟨fun canceling => absurd canceling opens.2.2, fun asked isNext => ?_, cancels.failed⟩
        simp at isNext
      · refine ⟨fun canceling => (nomatch canceling), fun asked isNext => ?_, cancels.failed⟩
        simp only [Option.some.injEq, TcpClientStage.onConnectFailed.injEq] at isNext
        rw [← isNext.2]
        exact (cancels.canceling isNext.1).2
  | onConnectFailed forced asked =>
      refine ⟨cancels.canceling, fun _ isNext => (nomatch isNext), silent ?_ cancels.failed⟩
      intro _ same
      cases same
      exact cancels.failing _ isAt
  | onConnected | onDisconnected =>
      exact ⟨cancels.canceling, fun _ isNext => (nomatch isNext),
        silent (fun _ same => nomatch same) cancels.failed⟩
  | finish err =>
      simp only [TcpClient.perform, TcpClient.finish]
      split
      · exact ⟨cancels.canceling, fun _ isNext => (nomatch isNext), cancels.failed⟩
      · exact ⟨cancels.canceling, fun _ isNext => (nomatch isNext), cancels.failed⟩
  | release | received err | settled =>
      exact ⟨cancels.canceling, fun _ isNext => (nomatch isNext), cancels.failed⟩

theorem cancelsAttempts_exact (cancels : client.CancelsAttempts)
    (stepped : tcpClientStep client event = some next) :
    next.CancelsAttempts ↔ client.Disconnectable event := by
  cases event with
  | connect begins =>
      cases stepped
      exact iff_of_true (cancels.connect begins) trivial
  | disconnect =>
      cases stepped
      exact cancels.disconnect_iff
  | attempt err writable =>
      simp only [tcpClientStep] at stepped
      split at stepped
      · cases stepped
        exact iff_of_true ⟨cancels.canceling, fun _ isNext => (nomatch isNext), cancels.failed⟩ trivial
      · cases stepped
  | handleEvents data err =>
      simp only [tcpClientStep] at stepped
      split at stepped
      · cases stepped
        refine iff_of_true ⟨cancels.canceling, fun asked isNext => ?_, cancels.failed⟩ trivial
        rw [Option.some.injEq] at isNext
        split at isNext
        · cases isNext
        · cases isNext
      · cases stepped
  | advance =>
      obtain ⟨stage, isAt, rfl⟩ := Option.map_eq_some_iff.mp stepped
      exact iff_of_true (cancels.perform isAt) trivial

theorem initial_cancelsAttempts : ({} : TcpClient).CancelsAttempts :=
  ⟨fun canceling => (nomatch canceling), fun _ isAt => (nomatch isAt),
    fun _ member => absurd member List.not_mem_nil⟩

end TcpClient

/-- Every attempt that is reported as cancelled was cancelled while it was under way, and no
cancellation is left for the next one, just when `disconnect` is never called on an idle client. -/
theorem tcpClient_cancels_iff (events : List TcpClientEvent) :
    Transition.Throughout tcpClientStep TcpClient.CancelsAttempts {} events ↔
      Transition.Happening tcpClientStep TcpClient.Disconnectable {} events :=
  Transition.Throughout.iff_happening tcpClientStep TcpClient.Sound
    (fun _ _ _ sound cancels stepped =>
      ⟨sound.step stepped, TcpClient.cancelsAttempts_exact cancels stepped⟩)
    TcpClient.initial_sound TcpClient.initial_cancelsAttempts

def staleCancel : List TcpClientEvent :=
  [.disconnect, .connect true, .attempt false true, .advance, .advance]

example : (Transition.run tcpClientStep {} staleCancel).map (·.reports) =
    some [.connectFailed true false] := by decide

end EasyViewer
