import EasyViewer.Library.Run
import Mathlib.Logic.Function.Basic

/-!
Accepting connections, one step for each section of the acceptor and of the event loop that
the socket is registered with. Each socket has an event loop of its own here; with fewer
loops there are fewer interleavings. A failed assertion ends the run.
-/

namespace EasyViewer

/-- Where the acceptor is with a socket: the next thing it does in `Server::addConnection`, and
from `make` on in `ServerBase`'s `onConnected`. -/
inductive AcceptorPlace where
  | onBufferReceived
  | onDisconnected
  | insert
  | make
  | add
  | recv
  | disconnect
  deriving DecidableEq, Repr

def AcceptorPlace.rank : AcceptorPlace → Nat
  | .onBufferReceived => 0
  | .onDisconnected => 1
  | .insert => 2
  | .make => 3
  | .add => 4
  | .recv => 5
  | .disconnect => 6

/-- Where the event loop is with a socket: at the end of `handleEvents`, in `disconnect0`, or in
the callbacks that `disconnect0` runs. -/
inductive LoopPlace where
  | idle
  | close (err : Bool)
  | callback
  | remove
  | erase
  | settle
  deriving DecidableEq, Repr

inductive ServerAssertion where
  | userOfReceived
  | userOfDisconnected
  | added
  | removed
  deriving DecidableEq, Repr

/-- `receiving` is `m_tasksRecv` not being empty; the callbacks are told by whether they are set. -/
structure Socket where
  connected : Bool := true
  disconnecting : Bool := false
  onBufferReceived : Bool := false
  onDisconnected : Bool := false
  userdata : Bool := false
  receiving : Bool := false
  loop : LoopPlace := .idle
  deriving DecidableEq, Repr

def Socket.disconnect (socket : Socket) : Socket :=
  if socket.disconnecting ∨ ¬ socket.connected then socket
  else { socket with disconnecting := true }

inductive Received where
  | nothing
  | data
  | failed
  deriving DecidableEq, Repr

/-- `serverConnections` are those of `TCP::Server`, `connections` those of `ServerBase`. The
connections that `makeUserConnection` refused and those whose `onDisconnected` came before
their `onConnected` had added them are histories. -/
structure AcceptingServer where
  sockets : Nat → Option Socket := fun _ => none
  accepted : Nat := 0
  acceptor : Option (Nat × AcceptorPlace) := none
  serverConnections : List Nat := []
  connections : List Nat := []
  fault : Option ServerAssertion := none
  refused : List Nat := []
  early : List Nat := []

namespace AcceptingServer

def put (server : AcceptingServer) (con : Nat) (socket : Socket) : AcceptingServer :=
  { server with sockets := Function.update server.sockets con (some socket) }

def goTo (server : AcceptingServer) (con : Nat) (place : AcceptorPlace) : AcceptingServer :=
  { server with acceptor := some (con, place) }

def waits (server : AcceptingServer) : AcceptingServer := { server with acceptor := none }

def recv0 (server : AcceptingServer) (socket : Socket) :
    Received → AcceptingServer × Bool
  | .nothing => (server, false)
  | .failed => (server, socket.receiving)
  | .data =>
      if socket.receiving ∧ socket.onBufferReceived ∧ ¬ socket.userdata then
        ({ server with fault := some .userOfReceived }, false)
      else (server, false)

def addConnection (server : AcceptingServer) (con : Nat) (socket : Socket) (made : Bool)
    (received : Received) : AcceptorPlace → AcceptingServer
  | .onBufferReceived =>
      (server.put con { socket with onBufferReceived := true }).goTo con .onDisconnected
  | .onDisconnected => (server.put con { socket with onDisconnected := true }).goTo con .insert
  | .insert => { server with serverConnections := con :: server.serverConnections }.goTo con .make
  | .make =>
      if made then (server.put con { socket with userdata := true }).goTo con .add
      else { server with refused := con :: server.refused }.goTo con .disconnect
  | .add =>
      if con ∈ server.connections then { server with fault := some .added }
      else { server with connections := con :: server.connections }.goTo con .recv
  | .recv =>
      if ¬ socket.connected then server.waits
      else
        let reading := { socket with receiving := true }
        let (server, err) := (server.put con reading).recv0 reading received
        if err then server.goTo con .disconnect else server.waits
  | .disconnect => (server.put con socket.disconnect).waits

/-- `handleEvents` up to its last section: what `EPOLLIN` leads to, and whether there is an
error behind `EPOLLERR`. -/
def handleEvents (server : AcceptingServer) (con : Nat) (socket : Socket)
    (readable : Option Received) (error : Option Bool) : AcceptingServer :=
  let (server, err) := server.recv0 socket (readable.getD .nothing)
  server.put con { socket with loop := .close (err || error == some true) }

def disconnect0 (server : AcceptingServer) (con : Nat) (socket : Socket) :
    LoopPlace → AcceptingServer
  | .idle => server
  | .close err =>
      if (socket.disconnecting ∨ err) ∧ socket.connected then
        server.put con { socket with connected := false, receiving := false, loop := .callback }
      else server.put con { socket with loop := .idle }
  | .callback =>
      if ¬ socket.onDisconnected then server.put con { socket with loop := .settle }
      else
        let announced := socket.userdata ∧ con ∈ server.connections
        let server := { server with
          early := if announced then server.early else con :: server.early }
        if socket.userdata then server.put con { socket with loop := .remove }
        else { server with fault := some .userOfDisconnected }
  | .remove =>
      if con ∈ server.connections then
        { server with connections := server.connections.filter (· ≠ con) }.put con
          { socket with loop := .erase }
      else { server with fault := some .removed }
  | .erase =>
      { server with serverConnections := server.serverConnections.filter (· ≠ con) }.put con
        { socket with loop := .settle }
  | .settle => server.put con { socket with disconnecting := false, loop := .idle }

def progress (server : AcceptingServer) (con : Nat) : Nat :=
  match server.acceptor with
  | some (current, place) => if current = con then place.rank else 7
  | none => 7

end AcceptingServer

inductive AcceptEvent where
  | accept
  | acceptor (made : Bool) (received : Received)
  | handleEvents (con : Nat) (readable : Option Received) (error : Option Bool)
  | loop (con : Nat)
  | disconnect (con : Nat)
  deriving DecidableEq, Repr

/-- The event loop hears of a socket as soon as it is made; others may disconnect it when it
is in one of the tables. -/
def acceptStep (server : AcceptingServer) (event : AcceptEvent) : Option AcceptingServer :=
  if server.fault.isSome then none
  else
    match event with
    | .accept =>
        if server.acceptor.isSome then none
        else
          some
            { server.put server.accepted {} with
              accepted := server.accepted + 1
              acceptor := some (server.accepted, .onBufferReceived) }
    | .acceptor made received =>
        match server.acceptor with
        | none => none
        | some (con, place) =>
            (server.sockets con).map fun socket =>
              server.addConnection con socket made received place
    | .handleEvents con readable error =>
        (server.sockets con).bind fun socket =>
          if socket.loop = .idle ∧ socket.connected then
            some (server.handleEvents con socket readable error)
          else none
    | .loop con =>
        (server.sockets con).bind fun socket =>
          if socket.loop = .idle then none else some (server.disconnect0 con socket socket.loop)
    | .disconnect con =>
        if con ∈ server.connections ∨ con ∈ server.serverConnections then
          (server.sockets con).map fun socket => server.put con socket.disconnect
        else none

/-- No assertion has failed, and no `onDisconnected` has come before the connection was bound
and added. -/
def Announced (server : AcceptingServer) : Prop := server.fault = none ∧ server.early = []

/-- When the event loop comes to the callback of a closed socket, the acceptor has yet to set
it, or has added the connection. -/
def CallsAnnounced (server : AcceptingServer) : AcceptEvent → Prop
  | .loop con =>
      ∀ socket, server.sockets con = some socket → socket.loop = .callback →
        server.progress con ≤ AcceptorPlace.onDisconnected.rank ∨
          (AcceptorPlace.add.rank < server.progress con ∧ con ∉ server.refused)
  | _ => True

namespace AcceptingServer

/-- What a socket and the tables have to do with how far the acceptor has come with it. -/
structure Fits (server : AcceptingServer) (con : Nat) (socket : Socket) : Prop where
  assigned : socket.onDisconnected = true ↔ 2 ≤ server.progress con
  bound : socket.userdata = true ↔ 4 ≤ server.progress con ∧ con ∉ server.refused
  refused : con ∈ server.refused → 6 ≤ server.progress con
  added : con ∈ server.connections → 5 ≤ server.progress con ∧ con ∉ server.refused
  listed : socket.connected = true ∨ socket.loop = .callback ∨ socket.loop = .remove →
    5 ≤ server.progress con → con ∉ server.refused → con ∈ server.connections
  reading : socket.receiving = true → socket.userdata = true
  closed : socket.loop = .callback ∨ socket.loop = .remove → socket.connected = false
  removing : socket.loop = .remove → con ∈ server.early ∨ con ∈ server.connections

structure Fitting (server : AcceptingServer) : Prop where
  fits : ∀ con socket, server.sockets con = some socket → server.Fits con socket
  known : ∀ con socket, server.sockets con = some socket → con < server.accepted
  bounded : ∀ con place, server.acceptor = some (con, place) → con < server.accepted
  fresh : ∀ con, server.accepted ≤ con → con ∉ server.refused ∧ con ∉ server.connections

structure SameFor (con : Nat) (server next : AcceptingServer) : Prop where
  progress : next.progress con = server.progress con
  refused : con ∈ next.refused ↔ con ∈ server.refused
  connections : con ∈ next.connections ↔ con ∈ server.connections
  early : con ∈ server.early → con ∈ next.early

variable {server next : AcceptingServer} {con : Nat} {socket : Socket}

theorem progress_self {place : AcceptorPlace} (isAt : server.acceptor = some (con, place)) :
    server.progress con = place.rank := by
  rw [progress, isAt]
  simp

theorem progress_at {place : AcceptorPlace} {rank : Nat}
    (isAt : server.acceptor = some (con, place)) (isRank : place.rank = rank) :
    server.progress con = rank := (progress_self isAt).trans isRank

theorem progress_other {other : Nat} {place : AcceptorPlace}
    (isAt : server.acceptor = some (con, place)) (different : other ≠ con) :
    server.progress other = 7 := by
  rw [progress, isAt]
  simp [different.symm]

theorem progress_idle (idle : server.acceptor = none) : server.progress con = 7 := by
  rw [progress, idle]

theorem Fits.passes (fits : server.Fits con socket)
    (assigned : 2 ≤ next.progress con ↔ 2 ≤ server.progress con)
    (bound : 4 ≤ next.progress con ↔ 4 ≤ server.progress con)
    (added : 5 ≤ next.progress con ↔ 5 ≤ server.progress con)
    (gone : 6 ≤ server.progress con → 6 ≤ next.progress con)
    (refused : con ∈ next.refused ↔ con ∈ server.refused)
    (connections : con ∈ next.connections ↔ con ∈ server.connections)
    (early : con ∈ server.early → con ∈ next.early) : next.Fits con socket := by
  refine ⟨fits.assigned.trans assigned.symm, ?_, ?_, ?_, ?_, fits.reading, fits.closed, ?_⟩
  · rw [bound, refused]
    exact fits.bound
  · rw [refused]
    exact fun isRefused => gone (fits.refused isRefused)
  · rw [added, refused, connections]
    exact fits.added
  · rw [added, refused, connections]
    exact fits.listed
  · intro removing
    rw [connections]
    exact (fits.removing removing).imp early id

theorem Fits.transport (fits : server.Fits con socket) (same : SameFor con server next) :
    next.Fits con socket := by
  obtain ⟨progress, refused, connections, early⟩ := same
  refine fits.passes ?_ ?_ ?_ ?_ refused connections early
  · rw [progress]
  · rw [progress]
  · rw [progress]
  · rw [progress]
    exact id

theorem Fitting.focus (fitting : server.Fitting) (found : server.sockets con = some socket)
    (accepted : next.accepted = server.accepted)
    (acceptor : ∀ current place, next.acceptor = some (current, place) →
      current = con ∨ next.acceptor = server.acceptor)
    (others : ∀ other, other ≠ con →
      next.sockets other = server.sockets other ∧ SameFor other server next)
    (own : ∀ after, next.sockets con = some after → next.Fits con after) : next.Fitting := by
  have there := fitting.known con socket found
  refine ⟨fun other after isAfter => ?_, fun other after isAfter => ?_,
    fun current place isAt => ?_, fun other later => ?_⟩
  · by_cases same : other = con
    · subst same
      exact own after isAfter
    · rw [(others other same).1] at isAfter
      exact (fitting.fits other after isAfter).transport (others other same).2
  · rw [accepted]
    by_cases same : other = con
    · exact same ▸ there
    · rw [(others other same).1] at isAfter
      exact fitting.known other after isAfter
  · rw [accepted]
    rcases acceptor current place isAt with same | same
    · exact same ▸ there
    · exact fitting.bounded current place (same ▸ isAt)
  · rw [accepted] at later
    have different : other ≠ con := by omega
    rw [(others other different).2.refused, (others other different).2.connections]
    exact fitting.fresh other later

theorem Fitting.put {after : Socket} (fitting : server.Fitting)
    (found : server.sockets con = some socket) (own : server.Fits con after) :
    (server.put con after).Fitting := by
  refine fitting.focus found rfl (fun _ _ _ => .inr rfl) (fun other different => ?_)
    fun last isLast => ?_
  · exact ⟨Function.update_of_ne different _ _, rfl, Iff.rfl, Iff.rfl, id⟩
  · have same : some after = some last := by
      rw [← isLast]
      exact (Function.update_self con (some after) server.sockets).symm
    cases same
    exact own.transport ⟨rfl, Iff.rfl, Iff.rfl, id⟩

theorem Fits.not_refused (fits : server.Fits con socket) (early : server.progress con < 6) :
    con ∉ server.refused :=
  fun refused => Nat.not_le_of_lt early (fits.refused refused)

theorem Fits.not_listed (fits : server.Fits con socket) (early : server.progress con < 5) :
    con ∉ server.connections :=
  fun listed => Nat.not_le_of_lt early (fits.added listed).1

theorem Fits.reads {after : Socket} (fits : server.Fits con socket)
    (assigned : after.onDisconnected = socket.onDisconnected)
    (bound : after.userdata = socket.userdata) (connected : after.connected = socket.connected)
    (loop : after.loop = socket.loop)
    (reading : after.receiving = true → after.userdata = true) : server.Fits con after := by
  refine ⟨?_, ?_, fits.refused, fits.added, ?_, reading, ?_, ?_⟩
  · rw [assigned]
    exact fits.assigned
  · rw [bound]
    exact fits.bound
  · rw [connected, loop]
    exact fits.listed
  · rw [connected, loop]
    exact fits.closed
  · rw [loop]
    exact fits.removing

theorem Fits.disconnect (fits : server.Fits con socket) : server.Fits con socket.disconnect := by
  rw [Socket.disconnect]
  split
  · exact fits
  · exact fits.reads rfl rfl rfl rfl fits.reading

theorem recv0_quiet (server : AcceptingServer) (socket : Socket)
    (reading : socket.receiving = true → socket.userdata = true) (received : Received) :
    (server.recv0 socket received).1 = server := by
  cases received with
  | nothing => rfl
  | failed => rfl
  | data =>
      rw [recv0]
      split
      · rename_i reads
        exact absurd (reading reads.1) reads.2.2
      · rfl

theorem Fits.moves {place : LoopPlace} (fits : server.Fits con socket)
    (outside : place ≠ .callback ∧ place ≠ .remove) :
    server.Fits con { socket with loop := place } where
  assigned := fits.assigned
  bound := fits.bound
  refused := fits.refused
  added := fits.added
  listed stage := fits.listed (.inl (by simpa [outside.1, outside.2] using stage))
  reading := fits.reading
  closed stage := by simp [outside.1, outside.2] at stage
  removing stage := absurd stage outside.2

theorem Fits.closes (fits : server.Fits con socket) (connected : socket.connected = true) :
    server.Fits con { socket with connected := false, receiving := false, loop := .callback } where
  assigned := fits.assigned
  bound := fits.bound
  refused := fits.refused
  added := fits.added
  listed _ := fits.listed (.inl connected)
  reading := by simp
  closed _ := rfl
  removing := by simp

theorem Fits.ranked_iff (fits : server.Fits con socket) (place : socket.loop = .callback)
    (assigned : socket.onDisconnected = true) :
    socket.userdata = true ∧ con ∈ server.connections ↔
      server.progress con ≤ AcceptorPlace.onDisconnected.rank ∨
        (AcceptorPlace.add.rank < server.progress con ∧ con ∉ server.refused) := by
  constructor
  · exact fun announced => .inr (fits.added announced.2)
  · rintro (early | ⟨added, accepted⟩)
    · have late := fits.assigned.mp assigned
      have first : server.progress con ≤ 1 := early
      omega
    · have five : 5 ≤ server.progress con := added
      exact ⟨fits.bound.mpr ⟨Nat.le_of_succ_le five, accepted⟩,
        fits.listed (.inr (.inl place)) five accepted⟩

theorem handleEvents_fitting (fitting : server.Fitting) (found : server.sockets con = some socket)
    (readable : Option Received) (error : Option Bool) :
    (server.handleEvents con socket readable error).Fitting ∧
      (server.handleEvents con socket readable error).fault = server.fault ∧
      (server.handleEvents con socket readable error).early = server.early := by
  have fits := fitting.fits con socket found
  have quiet := recv0_quiet server socket fits.reading (readable.getD .nothing)
  simp only [handleEvents, quiet]
  exact ⟨fitting.put found (fits.moves (by simp)), rfl, rfl⟩

theorem Fitting.remembers {early : List Nat} (fitting : server.Fitting)
    (more : ∀ con ∈ server.early, con ∈ early) :
    ({ server with early := early } : AcceptingServer).Fitting where
  fits con socket found :=
    (fitting.fits con socket found).transport ⟨rfl, Iff.rfl, Iff.rfl, more con⟩
  known := fitting.known
  bounded := fitting.bounded
  fresh := fitting.fresh

theorem remove_fitting (fitting : server.Fitting) (found : server.sockets con = some socket)
    (place : socket.loop = .remove) :
    ({ server with connections := server.connections.filter (· ≠ con) }.put con
      { socket with loop := .erase }).Fitting := by
  have fits := fitting.fits con socket found
  have unlisted : con ∉ server.connections.filter (· ≠ con) := by simp
  refine fitting.focus found rfl (fun _ _ _ => .inr rfl) (fun other different => ?_)
    fun last isLast => ?_
  · refine ⟨Function.update_of_ne different _ _, rfl, Iff.rfl, ?_, id⟩
    show other ∈ server.connections.filter (· ≠ con) ↔ other ∈ server.connections
    simp [different]
  · have same : some { socket with loop := .erase } = some last := by
      rw [← isLast]
      exact (Function.update_self con (some { socket with loop := .erase }) server.sockets).symm
    cases same
    exact ⟨fits.assigned, fits.bound, fits.refused, fun listed => absurd listed unlisted,
      fun stage => by simp [fits.closed (.inr place)] at stage, fits.reading, by simp, by simp⟩

/-- The callback comes in time just when the acceptor is not between setting it and adding the
connection. -/
theorem callback_announced (fitting : server.Fitting)
    (found : server.sockets con = some socket) (place : socket.loop = .callback)
    (announced : Announced server) :
    ((server.disconnect0 con socket .callback).fault = none →
      (server.disconnect0 con socket .callback).Fitting) ∧
      (Announced (server.disconnect0 con socket .callback) ↔
        server.progress con ≤ AcceptorPlace.onDisconnected.rank ∨
          (AcceptorPlace.add.rank < server.progress con ∧ con ∉ server.refused)) := by
  have fits := fitting.fits con socket found
  rw [disconnect0]
  by_cases assigned : socket.onDisconnected = true
  · rw [if_neg (not_not.mpr assigned), ← fits.ranked_iff place assigned]
    by_cases bound : socket.userdata = true
    · simp only [if_pos bound]
      have more : ∀ other ∈ server.early, other ∈
          if socket.userdata = true ∧ con ∈ server.connections then server.early
          else con :: server.early := by
        rw [announced.2]
        exact fun other isEarly => absurd isEarly List.not_mem_nil
      refine ⟨fun _ => (fitting.remembers more).put found ?_, ?_, fun both => ?_⟩
      · refine ⟨fits.assigned, fits.bound, fits.refused, fits.added,
          fun _ => fits.listed (.inr (.inl place)), fits.reading,
          fun _ => fits.closed (.inl place), fun _ => ?_⟩
        show con ∈ (if socket.userdata = true ∧ con ∈ server.connections then server.early
          else con :: server.early) ∨ con ∈ server.connections
        by_cases both : socket.userdata = true ∧ con ∈ server.connections
        · exact .inr both.2
        · rw [if_neg both]
          exact .inl List.mem_cons_self
      · intro after
        by_contra unlisted
        have none : (if socket.userdata = true ∧ con ∈ server.connections then server.early
          else con :: server.early) = [] := after.2
        rw [if_neg unlisted] at none
        contradiction
      · refine ⟨announced.1, ?_⟩
        show (if socket.userdata = true ∧ con ∈ server.connections then server.early
          else con :: server.early) = []
        rw [if_pos both]
        exact announced.2
    · simp only [if_neg bound]
      refine ⟨fun noFault => by contradiction, fun after => ?_, fun both => absurd both.1 bound⟩
      have never : some ServerAssertion.userOfDisconnected = none := after.1
      contradiction
  · rw [if_pos assigned]
    refine ⟨fun _ => fitting.put found (fits.moves (by simp)), fun _ => .inl ?_,
      fun _ => announced⟩
    have before : ¬ 2 ≤ server.progress con := fun late => assigned (fits.assigned.mpr late)
    exact Nat.le_of_not_lt before

theorem disconnect0_announced (fitting : server.Fitting)
    (found : server.sockets con = some socket) (announced : Announced server) :
    ((server.disconnect0 con socket socket.loop).fault = none →
      (server.disconnect0 con socket socket.loop).Fitting) ∧
      (Announced (server.disconnect0 con socket socket.loop) ↔
        (socket.loop = .callback →
          server.progress con ≤ AcceptorPlace.onDisconnected.rank ∨
            (AcceptorPlace.add.rank < server.progress con ∧ con ∉ server.refused))) := by
  have fits := fitting.fits con socket found
  cases place : socket.loop with
  | idle => exact ⟨fun _ => fitting, fun _ _ => by contradiction, fun _ => announced⟩
  | close err =>
      simp only [disconnect0]
      split
      · rename_i closes
        exact ⟨fun _ => fitting.put found (fits.closes closes.2), fun _ _ => by contradiction,
          fun _ => announced⟩
      · exact ⟨fun _ => fitting.put found (fits.moves (by simp)), fun _ _ => by contradiction,
          fun _ => announced⟩
  | callback =>
      obtain ⟨kept, inTime⟩ := callback_announced fitting found place announced
      exact ⟨kept, inTime.trans ⟨fun met _ => met, fun met => met rfl⟩⟩
  | remove =>
      have listed : con ∈ server.connections := by
        refine (fits.removing place).resolve_left fun isEarly => ?_
        rw [announced.2] at isEarly
        contradiction
      simp only [disconnect0, if_pos listed]
      exact ⟨fun _ => remove_fitting fitting found place, fun _ _ => by contradiction,
        fun _ => announced⟩
  | erase =>
      refine ⟨fun _ => ?_, fun _ _ => by contradiction, fun _ => announced⟩
      have unlisted : ({ server with
          serverConnections := server.serverConnections.filter (· ≠ con) } :
          AcceptingServer).Fitting := ⟨fun other after isAfter =>
            (fitting.fits other after isAfter).transport ⟨rfl, Iff.rfl, Iff.rfl, id⟩,
          fitting.known, fitting.bounded, fitting.fresh⟩
      exact unlisted.put found ((fits.moves (by simp)).transport ⟨rfl, Iff.rfl, Iff.rfl, id⟩)
  | settle =>
      refine ⟨fun _ => fitting.put found ?_, fun _ _ => by contradiction, fun _ => announced⟩
      exact ⟨fits.assigned, fits.bound, fits.refused, fits.added,
        fun stage => fits.listed (.inl (by simpa using stage)), fits.reading, by simp, by simp⟩

theorem progress_away {other : Nat}
    (away : ∀ current place, server.acceptor = some (current, place) → current = con)
    (different : other ≠ con) : server.progress other = 7 := by
  cases isAt : server.acceptor with
  | none => exact progress_idle isAt
  | some both =>
      obtain ⟨current, place⟩ := both
      cases away current place isAt
      exact progress_other isAt different

theorem Fitting.accepts {place : AcceptorPlace} (fitting : server.Fitting)
    (isAt : server.acceptor = some (con, place)) (found : server.sockets con = some socket)
    (accepted : next.accepted = server.accepted)
    (away : ∀ current after, next.acceptor = some (current, after) → current = con)
    (others : ∀ other, other ≠ con → next.sockets other = server.sockets other ∧
      (other ∈ next.refused ↔ other ∈ server.refused) ∧
      (other ∈ next.connections ↔ other ∈ server.connections))
    (early : next.early = server.early)
    (own : ∀ after, next.sockets con = some after → next.Fits con after) : next.Fitting := by
  refine fitting.focus found accepted
    (fun current after isAfter => .inl (away current after isAfter))
    (fun other different => ?_) own
  obtain ⟨same, refused, connections⟩ := others other different
  refine ⟨same, ?_, refused, connections, fun isEarly => early ▸ isEarly⟩
  rw [progress_away away different, progress_other isAt different]

theorem Fitting.acceptsSocket {place : AcceptorPlace} {after : Socket}
    {acceptor : Option (Nat × AcceptorPlace)} (fitting : server.Fitting)
    (isAt : server.acceptor = some (con, place)) (found : server.sockets con = some socket)
    (away : ∀ current later, acceptor = some (current, later) → current = con)
    (own : ({ server with acceptor := acceptor } : AcceptingServer).Fits con after) :
    ({ server.put con after with acceptor := acceptor } : AcceptingServer).Fitting := by
  refine fitting.accepts isAt found rfl away (fun other different => ?_) rfl fun last isLast => ?_
  · exact ⟨Function.update_of_ne different _ _, Iff.rfl, Iff.rfl⟩
  · have same : some after = some last := by
      rw [← isLast]
      exact (Function.update_self con (some after) server.sockets).symm
    cases same
    exact own.transport ⟨rfl, Iff.rfl, Iff.rfl, id⟩

theorem Fits.goesOn {place : AcceptorPlace} (acceptor : Option (Nat × AcceptorPlace))
    (fits : server.Fits con socket) (isAt : server.acceptor = some (con, place)) {after : Nat}
    (isAfter : ({ server with acceptor := acceptor } : AcceptingServer).progress con = after)
    (assigned : 2 ≤ after ↔ 2 ≤ place.rank) (bound : 4 ≤ after ↔ 4 ≤ place.rank)
    (added : 5 ≤ after ↔ 5 ≤ place.rank) (gone : 6 ≤ place.rank → 6 ≤ after) :
    ({ server with acceptor := acceptor } : AcceptingServer).Fits con socket := by
  have before := progress_self isAt
  refine fits.passes ?_ ?_ ?_ ?_ Iff.rfl Iff.rfl id
  all_goals rw [isAfter, before]
  · exact assigned
  · exact bound
  · exact added
  · exact gone

theorem only_one {place : AcceptorPlace} : ∀ current later,
    some (con, place) = some (current, later) → current = con := by
  rintro current later same
  cases same
  rfl

theorem nobody : ∀ current later,
    (none : Option (Nat × AcceptorPlace)) = some (current, later) → current = con := by
  intro current later never
  contradiction

theorem recv_fitting (fitting : server.Fitting) (isAt : server.acceptor = some (con, .recv))
    (found : server.sockets con = some socket) (made : Bool) (received : Received) :
    (server.addConnection con socket made received .recv).Fitting ∧
      (server.addConnection con socket made received .recv).fault = server.fault ∧
      (server.addConnection con socket made received .recv).early = server.early := by
  have fits := fitting.fits con socket found
  have here : server.progress con = 5 := progress_self isAt
  have past : ({ server with acceptor := none } : AcceptingServer).progress con = 7 :=
    progress_idle rfl
  rw [addConnection]
  split
  · refine ⟨fitting.accepts isAt found rfl nobody (fun _ _ => ⟨rfl, Iff.rfl, Iff.rfl⟩) rfl
      fun after isAfter => ?_, rfl, rfl⟩
    cases found.symm.trans isAfter
    exact fits.goesOn _ isAt past (by decide) (by decide) (by decide) (by decide)
  · have accepted : con ∉ server.refused := fits.not_refused (by omega)
    have bound : socket.userdata = true := fits.bound.mpr ⟨by omega, accepted⟩
    have quiet := recv0_quiet (server.put con { socket with receiving := true })
      { socket with receiving := true } (fun _ => bound) received
    simp only [quiet]
    split
    · refine ⟨fitting.acceptsSocket isAt found only_one ?_, rfl, rfl⟩
      have moved := fits.goesOn (some (con, .disconnect)) isAt (progress_self rfl)
        (by decide) (by decide) (by decide) (by decide)
      exact moved.reads rfl rfl rfl rfl fun _ => bound
    · refine ⟨fitting.acceptsSocket isAt found nobody ?_, rfl, rfl⟩
      have moved := fits.goesOn _ isAt past (by decide) (by decide) (by decide) (by decide)
      exact moved.reads rfl rfl rfl rfl fun _ => bound

theorem make_fitting (fitting : server.Fitting) (isAt : server.acceptor = some (con, .make))
    (found : server.sockets con = some socket) (made : Bool) (received : Received) :
    (server.addConnection con socket made received .make).Fitting ∧
      (server.addConnection con socket made received .make).fault = server.fault ∧
      (server.addConnection con socket made received .make).early = server.early := by
  have fits := fitting.fits con socket found
  have here : server.progress con = 3 := progress_self isAt
  have assigned : socket.onDisconnected = true := fits.assigned.mpr (by omega)
  have accepted : con ∉ server.refused := fits.not_refused (by omega)
  have unlisted : con ∉ server.connections := fits.not_listed (by omega)
  have unbound : ¬ socket.userdata = true := fun bound => by
    have late := (fits.bound.mp bound).1
    omega
  rw [addConnection]
  cases made with
  | true =>
      refine ⟨fitting.acceptsSocket isAt found only_one ?_, rfl, rfl⟩
      have after : ({ server with acceptor := some (con, .add) } :
        AcceptingServer).progress con = 4 := progress_at rfl rfl
      refine ⟨⟨fun _ => by omega, fun _ => assigned⟩, ⟨fun _ => ⟨by omega, accepted⟩,
        fun _ => rfl⟩, fun refused => absurd refused accepted,
        fun listed => absurd listed unlisted, fun _ late => ?_, fun _ => rfl, fits.closed,
        fits.removing⟩
      omega
  | false =>
      refine ⟨fitting.accepts isAt found rfl only_one (fun other different => ?_) rfl
        fun last isLast => ?_, rfl, rfl⟩
      · refine ⟨rfl, ?_, Iff.rfl⟩
        show other ∈ con :: server.refused ↔ other ∈ server.refused
        simp [different]
      · cases found.symm.trans isLast
        have refused : con ∈ con :: server.refused := List.mem_cons_self
        have after : ({ server with
          refused := con :: server.refused
          acceptor := some (con, .disconnect) } : AcceptingServer).progress con = 6 :=
          progress_at rfl rfl
        refine ⟨⟨fun _ => ?_, fun _ => assigned⟩, ⟨fun bound => absurd bound unbound,
          fun both => absurd refused both.2⟩, fun _ => ?_,
          fun listed => absurd listed unlisted, fun _ _ spared => absurd refused spared,
          fits.reading, fits.closed, fits.removing⟩
        · exact Nat.le_trans (by decide) (Nat.le_of_eq after.symm)
        · exact Nat.le_of_eq after.symm

theorem add_fitting (fitting : server.Fitting) (isAt : server.acceptor = some (con, .add))
    (found : server.sockets con = some socket) (made : Bool) (received : Received) :
    (server.addConnection con socket made received .add).Fitting ∧
      (server.addConnection con socket made received .add).fault = server.fault ∧
      (server.addConnection con socket made received .add).early = server.early := by
  have fits := fitting.fits con socket found
  have here : server.progress con = 4 := progress_self isAt
  have accepted : con ∉ server.refused := fits.not_refused (by omega)
  have unlisted : con ∉ server.connections := fits.not_listed (by omega)
  rw [addConnection, if_neg unlisted]
  refine ⟨fitting.accepts isAt found rfl only_one (fun other different => ?_) rfl
    fun last isLast => ?_, rfl, rfl⟩
  · refine ⟨rfl, Iff.rfl, ?_⟩
    show other ∈ con :: server.connections ↔ other ∈ server.connections
    simp [different]
  · cases found.symm.trans isLast
    have listed : con ∈ con :: server.connections := List.mem_cons_self
    have after : ({ server with
      connections := con :: server.connections
      acceptor := some (con, .recv) } : AcceptingServer).progress con = 5 := progress_at rfl rfl
    refine ⟨fits.assigned.trans ⟨fun _ => ?_, fun _ => ?_⟩, fits.bound.trans ⟨fun both => ?_,
      fun both => ⟨Nat.le_of_eq here.symm, both.2⟩⟩, fun refused => absurd refused accepted,
      fun _ => ⟨Nat.le_of_eq after.symm, accepted⟩, fun _ _ _ => listed, fits.reading,
      fits.closed, fun _ => .inr listed⟩
    · exact Nat.le_trans (by decide) (Nat.le_of_eq after.symm)
    · exact Nat.le_trans (by decide) (Nat.le_of_eq here.symm)
    · exact ⟨Nat.le_trans (by decide) (Nat.le_of_eq after.symm), both.2⟩

theorem addConnection_fitting {place : AcceptorPlace} (fitting : server.Fitting)
    (isAt : server.acceptor = some (con, place)) (found : server.sockets con = some socket)
    (made : Bool) (received : Received) :
    (server.addConnection con socket made received place).Fitting ∧
      (server.addConnection con socket made received place).fault = server.fault ∧
      (server.addConnection con socket made received place).early = server.early := by
  have fits := fitting.fits con socket found
  cases place with
  | onBufferReceived =>
      refine ⟨fitting.acceptsSocket isAt found only_one ?_, rfl, rfl⟩
      have moved := fits.goesOn (some (con, .onDisconnected)) isAt (progress_self rfl)
        (by decide) (by decide) (by decide) (by decide)
      exact moved.reads rfl rfl rfl rfl moved.reading
  | onDisconnected =>
      refine ⟨fitting.acceptsSocket isAt found only_one ?_, rfl, rfl⟩
      have here : server.progress con = 1 := progress_self isAt
      have after : ({ server with acceptor := some (con, .insert) } :
        AcceptingServer).progress con = 2 := progress_at rfl rfl
      refine ⟨⟨fun _ => Nat.le_of_eq after.symm, fun _ => rfl⟩, fits.bound.trans ?_,
        fun refused => absurd refused (fits.not_refused (by omega)),
        fun listed => absurd listed (fits.not_listed (by omega)), fun _ late => ?_, fits.reading,
        fits.closed, fits.removing⟩
      · rw [here, after]
        simp
      · omega
  | insert =>
      refine ⟨fitting.accepts isAt found rfl only_one (fun _ _ => ⟨rfl, Iff.rfl, Iff.rfl⟩) rfl
        fun last isLast => ?_, rfl, rfl⟩
      cases found.symm.trans isLast
      exact (fits.goesOn (some (con, .make)) isAt (progress_self rfl) (by decide)
        (by decide) (by decide) (by decide)).transport ⟨rfl, Iff.rfl, Iff.rfl, id⟩
  | make => exact make_fitting fitting isAt found made received
  | add => exact add_fitting fitting isAt found made received
  | recv => exact recv_fitting fitting isAt found made received
  | disconnect =>
      refine ⟨fitting.acceptsSocket isAt found nobody ?_, rfl, rfl⟩
      exact (fits.goesOn none isAt (progress_idle rfl) (by decide) (by decide)
        (by decide) (by decide)).disconnect

theorem accept_fitting (fitting : server.Fitting) (idle : server.acceptor = none) :
    ({ server.put server.accepted {} with
      accepted := server.accepted + 1
      acceptor := some (server.accepted, .onBufferReceived) } : AcceptingServer).Fitting := by
  have away : ∀ {con : Nat}, con ≠ server.accepted →
      ({ server.put server.accepted {} with
        accepted := server.accepted + 1
        acceptor := some (server.accepted, .onBufferReceived) } : AcceptingServer).progress con =
        server.progress con := by
    intro con different
    rw [progress_other rfl different, progress_idle idle]
  refine ⟨fun con socket found => ?_, fun con socket found => ?_, fun con place isAt => ?_,
    fun con later => fitting.fresh con (Nat.le_of_succ_le later)⟩
  · by_cases new : con = server.accepted
    · subst new
      have same : some ({} : Socket) = some socket := by
        rw [← found]
        exact (Function.update_self server.accepted (some ({} : Socket)) server.sockets).symm
      cases same
      have first : ({ server.put server.accepted {} with
        accepted := server.accepted + 1
        acceptor := some (server.accepted, .onBufferReceived) } :
        AcceptingServer).progress server.accepted = 0 := progress_at rfl rfl
      have fresh := fitting.fresh server.accepted (Nat.le_refl _)
      refine ⟨?_, ?_, fun refused => absurd refused fresh.1, fun listed => absurd listed fresh.2,
        fun _ late => ?_, fun reading => ?_, fun stage => ?_, fun stage => ?_⟩
      · rw [first]
        simp
      · rw [first]
        simp
      · rw [first] at late
        contradiction
      · contradiction
      · simp at stage
      · contradiction
    · have before : server.sockets con = some socket := by
        rw [← found]
        exact (Function.update_of_ne new _ _).symm
      exact (fitting.fits con socket before).transport ⟨away new, Iff.rfl, Iff.rfl, id⟩
  · by_cases new : con = server.accepted
    · exact new ▸ Nat.lt_succ_self _
    · have before : server.sockets con = some socket := by
        rw [← found]
        exact (Function.update_of_ne new _ _).symm
      exact Nat.lt_succ_of_lt (fitting.known con socket before)
  · cases isAt
    exact Nat.lt_succ_self _

end AcceptingServer

open AcceptingServer in
theorem acceptStep_announced {server next : AcceptingServer} {event : AcceptEvent}
    (fitting : server.Fitting) (announced : Announced server)
    (stepped : acceptStep server event = some next) :
    (next.fault = none → next.Fitting) ∧ (Announced next ↔ CallsAnnounced server event) := by
  rw [acceptStep.eq_def, if_neg (by simp [announced.1])] at stepped
  cases event with
  | accept =>
      simp only at stepped
      split at stepped
      · contradiction
      · rename_i idle
        cases stepped
        refine ⟨fun _ => accept_fitting fitting (by simpa using idle), fun _ => trivial,
          fun _ => announced⟩
  | acceptor made received =>
      simp only at stepped
      split at stepped
      · contradiction
      · rename_i con place isAt
        obtain ⟨socket, found, rfl⟩ := Option.map_eq_some_iff.mp stepped
        obtain ⟨kept, fault, early⟩ := addConnection_fitting fitting isAt found made received
        exact ⟨fun _ => kept, fun _ => trivial,
          fun _ => ⟨fault.trans announced.1, early.trans announced.2⟩⟩
  | handleEvents con readable error =>
      obtain ⟨socket, found, handled⟩ := Option.bind_eq_some_iff.mp stepped
      split at handled
      · cases handled
        obtain ⟨kept, fault, early⟩ := handleEvents_fitting fitting found readable error
        exact ⟨fun _ => kept, fun _ => trivial,
          fun _ => ⟨fault.trans announced.1, early.trans announced.2⟩⟩
      · contradiction
  | loop con =>
      obtain ⟨socket, found, moved⟩ := Option.bind_eq_some_iff.mp stepped
      split at moved
      · contradiction
      · cases moved
        obtain ⟨kept, exactly⟩ := disconnect0_announced fitting found announced
        refine ⟨kept, exactly.trans ⟨fun inTime other isOther => ?_, fun inTime => ?_⟩⟩
        · cases found.symm.trans isOther
          exact inTime
        · exact inTime socket found
  | disconnect con =>
      simp only at stepped
      split at stepped
      · obtain ⟨socket, found, rfl⟩ := Option.map_eq_some_iff.mp stepped
        exact ⟨fun _ => fitting.put found (fitting.fits con socket found).disconnect,
          fun _ => trivial, fun _ => announced⟩
      · contradiction

/-- Every `onDisconnected` of a run finds its connection announced, and no assertion fails,
exactly if the event loop never comes to a callback between its being set and the connection
being added. -/
theorem announced_iff (events : List AcceptEvent) :
    Transition.Throughout acceptStep Announced {} events ↔
      Transition.Happening acceptStep CallsAnnounced {} events := by
  refine Transition.Throughout.iff_happening acceptStep
    (fun server => server.fault = none → server.Fitting) ?_ (fun _ => ?_) ⟨rfl, rfl⟩
  · exact fun server event next fitting announced stepped =>
      acceptStep_announced (fitting announced.1) announced stepped
  · exact ⟨fun _ _ found => by contradiction, fun _ _ found => by contradiction,
      fun _ _ isAt => by contradiction, fun _ _ => ⟨List.not_mem_nil, List.not_mem_nil⟩⟩

/-- The peer resets the connection when its callbacks have been set, but nothing more; or
`makeUserConnection` fails, and its `disconnect` leads to the callback. -/
theorem earlyCallback_unannounced :
    ¬ Transition.Throughout acceptStep Announced {}
        [.accept, .acceptor true .nothing, .acceptor true .nothing,
          .handleEvents 0 none (some true), .loop 0, .loop 0] ∧
      ¬ Transition.Throughout acceptStep Announced {}
        [.accept, .acceptor true .nothing, .acceptor true .nothing, .acceptor true .nothing,
          .acceptor false .nothing, .acceptor true .nothing,
          .handleEvents 0 (some .nothing) none, .loop 0, .loop 0] := by
  constructor
  · intro announced
    have last := (announced.final acceptStep rfl).1
    contradiction
  · intro announced
    have last := (announced.final acceptStep rfl).1
    contradiction

end EasyViewer
