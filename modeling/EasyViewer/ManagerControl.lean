import EasyViewer.Library.Run
import EasyViewer.ManagerAnswers

/-!
The control program and the management server it is connected to. One thread of the program
logs in and executes commands, each of which waits some seconds for its answer; the thread of
its connection resolves whatever promise stands when an answer comes in. Requests are counted,
and an answer to another request than the promise's is dropped.
-/

namespace EasyViewer

inductive Command where
  | listAccount (filter : String)
  | addAccount (account password : String)
  | enableAccount (account : String)
  | disableAccount (account : String)
  | deleteAccount (account : String)
  | changeAccountPassword (account newPassword : String)
  | listBlockedIPAddresses
  | removeBlockedIPAddress (ip : String)
  | addBlockedIPAddress (ip : String) (duration : UInt32)
  | listBlockedAccounts
  | removeBlockedAccount (userId : Int64)
  | addBlockedAccount (userId : Int64) (duration : UInt32)
  deriving DecidableEq, Repr

def Command.request (seq : Int) : Command → ManagementRequest
  | .listAccount filter => .listAccount seq filter
  | .addAccount account password => .addAccount seq account password
  | .enableAccount account => .enableAccount seq account
  | .disableAccount account => .disableAccount seq account
  | .deleteAccount account => .deleteAccount seq account
  | .changeAccountPassword account newPassword => .changeAccountPassword seq account newPassword
  | .listBlockedIPAddresses => .listBlockedIPAddresses seq
  | .removeBlockedIPAddress ip => .removeBlockedIPAddress seq ip
  | .addBlockedIPAddress ip duration => .addBlockedIPAddress seq ip duration.toNat
  | .listBlockedAccounts => .listBlockedAccounts seq
  | .removeBlockedAccount userId => .removeBlockedAccount seq userId.toInt
  | .addBlockedAccount userId duration => .addBlockedAccount seq userId.toInt duration.toNat

@[simp] theorem Command.request_seq (command : Command) (seq : Int) :
    (command.request seq).seq = seq := by
  cases command <;> rfl

/-- The class that a command casts its result to, named by the tag it is made from. -/
def Command.resultTag (command : Command) : UInt32 := (command.request 0).responseTag

theorem Command.request_responseTag (command : Command) (seq : Int) :
    (command.request seq).responseTag = command.resultTag := by
  cases command <;> rfl

inductive Result where
  | login (errCode : Int) (errString : String)
  | management (tag : UInt32) (response : ManagementResponse)
  deriving DecidableEq, Repr

/-- `LoginResult::match` takes any number. -/
def Result.matches : Result → Int → Bool
  | .login _ _, _ => true
  | .management _ response, seq => response.seq = seq

def managementTags : List UInt32 :=
  [Tag.responseListAccount, Tag.responseAddAccount, Tag.responseEnableAccount,
    Tag.responseDisableAccount, Tag.responseDeleteAccount, Tag.responseChangeAccountPassword,
    Tag.responseListBlockedIPAddresses, Tag.responseRemoveBlockedIPAddress,
    Tag.responseAddBlockedIPAddress, Tag.responseListBlockedAccounts,
    Tag.responseRemoveBlockedAccount, Tag.responseAddBlockedAccount]

def readResult (packet : Packet) : Option Result :=
  match packet.body with
  | .login errCode errString _ =>
      if packet.tag = Tag.responseLogin then some (.login errCode errString) else none
  | .management response =>
      if packet.tag ∈ managementTags then some (.management packet.tag response) else none
  | _ => none

structure Promise where
  seq : Int
  value : Option Result := none
  deriving DecidableEq, Repr

/-- Where the thread of `main` stands: at the password for the next of its three tries, behind
a login, at the prompt, behind a command, or at the end of the process. -/
inductive ControlPhase where
  | password (tries : Nat)
  | loggingIn (tries : Nat)
  | prompt
  | executing (command : Command)
  | exited
  deriving DecidableEq, Repr

inductive ControlFault where
  | promiseAlreadySatisfied
  | assertion
  deriving DecidableEq, Repr

/-- What a command has printed, with the place of its request among all that were sent. -/
structure Shown where
  place : Nat
  command : Command
  response : ManagementResponse
  deriving DecidableEq, Repr

/-- `promises` are all there ever were, the last one is `m_promise`; `handling` is what the
connection's thread has got between `getPromising` and `setValue`. -/
structure Control where
  seq : Int
  promises : List Promise := []
  handling : Option (Nat × Result) := none
  phase : ControlPhase := .password 0
  disconnecting : Bool := false
  shown : List Shown := []
  fault : Option ControlFault := none
  deriving DecidableEq, Repr

namespace Control

/-- `nextSEQ` and `promise`. -/
def ask (control : Control) (phase : ControlPhase) : Control :=
  { control with
    seq := control.seq + 1
    promises := control.promises ++ [{ seq := control.seq + 1 }]
    phase := phase }

def result (control : Control) : Option Result := control.promises.getLast?.bind Promise.value

def afterLogin (tries : Nat) : Result → ControlPhase
  | .login errCode _ =>
      if errCode = Err.noError then .prompt
      else if errCode = Err.passwordIncorrect ∧ tries + 1 < 3 then .password (tries + 1)
      else .exited
  | .management _ _ => .exited

/-- The `dynamic_cast` to the command's class, and the assertion behind it. -/
def executed (control : Control) (command : Command) : Result → Control
  | .management tag response =>
      if tag = command.resultTag then
        { control with
          shown := control.shown ++ [{
            place := control.promises.length - 1, command := command, response := response }]
          phase := .prompt }
      else { control with fault := some .assertion }
  | .login _ _ => { control with fault := some .assertion }

/-- The promise that stands gets the result, also where it belongs to another. -/
def receive (control : Control) (packet : Packet) : Control :=
  match readResult packet with
  | none => { control with disconnecting := true }
  | some result =>
      if control.promises.isEmpty then control
      else { control with handling := some (control.promises.length - 1, result) }

def setValue (control : Control) (place : Nat) (result : Result) : Control :=
  match control.promises[place]? with
  | none => { control with handling := none }
  | some promise =>
      if result.matches promise.seq then
        if promise.value.isSome then { control with fault := some .promiseAlreadySatisfied }
        else
          { control with
            promises := control.promises.set place { promise with value := some result }
            handling := none }
      else { control with handling := none }

end Control

inductive ControlEvent where
  | login (password : String)
  | loginAnswered
  | loginTimeout
  | execute (command : Command)
  | executed
  | timeout
  | quit
  | receive
  | setValue
  | disconnected
  deriving DecidableEq, Repr

structure Served where
  before : ServerState
  message : ClientMessage
  ambient : Ambient
  after : ServerState

/-- A packet for the control program, with the place of the request that led to it. -/
structure Reply where
  place : Option Nat
  packet : Packet
  deriving DecidableEq, Repr

/-- `asked` and `replies` are all that was sent either way: the server has taken the first
`served.length` of the ones, the program the first `read` of the others. -/
structure ManagerSession where
  control : Control
  server : ServerState
  asked : List ClientMessage := []
  served : List Served := []
  replies : List Reply := []
  read : Nat := 0

inductive SessionEvent where
  | control (event : ControlEvent)
  | serve (ambient : Ambient)
  | server (event : Event)
  deriving DecidableEq

def packetFor (con : ConnectionId) : Output → Option Packet
  | .send target packet => if target = con then some packet else none
  | .toGuard _ target _ packet => if target = con then some packet else none
  | .toVisitor _ target _ packet => if target = con then some packet else none

def Event.comesFrom (con : ConnectionId) : Event → Bool
  | .message other _ _ => other = con
  | _ => false

namespace ManagerSession

def replying (session : ManagerSession) (con : ConnectionId) (place : Option Nat)
    (server : ServerState) : ManagerSession :=
  { session with
    server := server
    replies := session.replies ++ (server.outputs.filterMap (packetFor con)).map fun packet =>
      { place := place, packet := packet } }

section

variable (secretKey : String)

/-- A packet with an unknown tag stays in front of the buffer. -/
def controlStep (session : ManagerSession) (event : ControlEvent) : Option ManagerSession :=
  let control := session.control
  match event, control.phase with
  | .login password, .password tries =>
      some { session with
        control := control.ask (.loggingIn tries)
        asked := session.asked ++ [.login {
          account := "", password := password, role := Role.manager, secretKey := secretKey }] }
  | .loginAnswered, .loggingIn tries =>
      control.result.map fun result =>
        { session with control := { control with phase := Control.afterLogin tries result } }
  | .loginTimeout, .loggingIn _ =>
      if control.result.isNone then
        some { session with control := { control with phase := .exited } }
      else none
  | .execute command, .prompt =>
      some { session with
        control := control.ask (.executing command)
        asked := session.asked ++ [.management (command.request (control.seq + 1))] }
  | .executed, .executing command =>
      control.result.map fun result =>
        { session with control := control.executed command result }
  | .timeout, .executing _ =>
      if control.result.isNone then
        some { session with control := { control with phase := .prompt } }
      else none
  | .quit, .password _ => some { session with control := { control with phase := .exited } }
  | .quit, .prompt => some { session with control := { control with phase := .exited } }
  | .receive, _ =>
      match control.handling, session.replies[session.read]? with
      | none, some reply =>
          if reply.packet.tag = Tag.responseLogin ∨ reply.packet.tag ∈ managementTags then
            some { session with
              control := control.receive reply.packet
              read := session.read + 1 }
          else some { session with control := { control with disconnecting := true } }
      | _, _ => none
  | .setValue, _ =>
      control.handling.map fun (place, result) =>
        { session with control := control.setValue place result }
  | .disconnected, _ => some { session with control := { control with phase := .exited } }
  | _, _ => none

variable (md5 : String → String) (con : ConnectionId)

def step (session : ManagerSession) : SessionEvent → Option ManagerSession
  | .control event =>
      if session.control.fault.isSome ∨ session.control.phase = .exited then none
      else session.controlStep secretKey event
  | .serve ambient =>
      session.asked[session.served.length]?.bind fun message =>
        (serverStep md5 session.server (.message con message ambient)).map fun server =>
          { session.replying con (some session.served.length) server with
            served := session.served ++ [{
              before := session.server, message := message, ambient := ambient
              after := server }] }
  | .server event =>
      if event.comesFrom con then none
      else (serverStep md5 session.server event).map (session.replying con none)

end

end ManagerSession

def initialSession (server : ServerState) (seq : Int) : ManagerSession :=
  { control := { seq := seq }, server := server }

/-! What holds between the two. -/

namespace ManagerSession

def resolved (session : ManagerSession) : Nat :=
  if session.control.handling.isSome then session.read - 1 else session.read

structure Numbered (start : Int) (session : ManagerSession) : Prop where
  seq : session.control.seq = start + session.control.promises.length
  asked : session.asked.length = session.control.promises.length
  promise : ∀ (place : Nat) (promise : Promise),
    session.control.promises[place]? = some promise → promise.seq = start + place + 1
  request : ∀ (place : Nat) (message : ClientMessage), session.asked[place]? = some message →
    (∃ login, message = .login login) ∨
      ∃ command : Command, message = .management (command.request (start + place + 1))

structure InTurn (md5 : String → String) (con : ConnectionId) (session : ManagerSession) :
    Prop where
  order : ∀ (place : Nat) (served : Served), session.served[place]? = some served →
    session.asked[place]? = some served.message ∧
      serverStep md5 served.before (.message con served.message served.ambient) =
        some served.after
  answers : ∀ (index : Nat) (reply : Reply) (place : Nat), session.replies[index]? = some reply →
    reply.place = some place → ∃ served, session.served[place]? = some served ∧
      served.message.AnsweredBy reply.packet ∧ served.after.outputs = [.send con reply.packet]
  others : ∀ (index : Nat) (reply : Reply), session.replies[index]? = some reply →
    reply.place = none → ¬ reply.packet.body.Answers
  increasing : ∀ (first second : Nat) (firstReply secondReply : Reply)
    (firstPlace secondPlace : Nat), first < second → session.replies[first]? = some firstReply →
    session.replies[second]? = some secondReply → firstReply.place = some firstPlace →
    secondReply.place = some secondPlace → firstPlace < secondPlace

structure Resolved (session : ManagerSession) : Prop where
  value : ∀ (place : Nat) (promise : Promise) (result : Result),
    session.control.promises[place]? = some promise → promise.value = some result →
    ∃ index reply, index < session.resolved ∧ session.replies[index]? = some reply ∧
      reply.place = some place ∧ readResult reply.packet = some result
  handling : ∀ (place : Nat) (result : Result),
    session.control.handling = some (place, result) →
    ∃ index reply, session.read = index + 1 ∧ session.replies[index]? = some reply ∧
      readResult reply.packet = some result ∧ place < session.control.promises.length ∧
      ∀ errCode errString, result = .login errCode errString → reply.place = some place

/-- The thread of `main` goes on from a login only with its answer, and shows what it asked
for. -/
structure Phased (start : Int) (session : ManagerSession) : Prop where
  logins : ∀ (place : Nat) (login : LoginRequest), session.asked[place]? = some (.login login) →
    (∃ promise, session.control.promises[place]? = some promise ∧ promise.value.isSome = true) ∨
      place + 1 = session.asked.length ∧
        (session.control.phase = .exited ∨ ∃ tries, session.control.phase = .loggingIn tries)
  executing : ∀ command, session.control.phase = .executing command →
    session.asked.getLast? = some (.management (command.request session.control.seq))
  shown : ∀ shown ∈ session.control.shown, ∃ promise,
    session.control.promises[shown.place]? = some promise ∧
      promise.value = some (.management shown.command.resultTag shown.response) ∧
      session.asked[shown.place]? =
        some (.management (shown.command.request (start + shown.place + 1)))
  places : (session.control.shown.map Shown.place).Pairwise (· < ·)
  fresh : ∀ command, session.control.phase = .executing command →
    ∀ shown ∈ session.control.shown, shown.place + 1 < session.control.promises.length
  granted : (session.control.phase = .prompt ∨
      ∃ command, session.control.phase = .executing command) →
    ∃ promise ∈ session.control.promises, ∃ text, promise.value = some (.login Err.noError text)
  sound : session.control.fault = none

structure Accountable (md5 : String → String) (con : ConnectionId) (start : Int)
    (session : ManagerSession) : Prop where
  numbered : Numbered start session
  turns : InTurn md5 con session
  resolved : Resolved session
  phased : Phased start session

section

variable {md5 : String → String} {con : ConnectionId} {start : Int}
  {session next : ManagerSession} {secretKey : String}

theorem Accountable.initial (server : ServerState) :
    Accountable md5 con start (initialSession server start) where
  numbered := ⟨(Int.add_zero _).symm, rfl, by simp [initialSession], by simp [initialSession]⟩
  turns := ⟨by simp [initialSession], by simp [initialSession], by simp [initialSession],
    by simp [initialSession]⟩
  resolved := ⟨by simp [initialSession], by simp [initialSession]⟩
  phased := ⟨by simp [initialSession], by simp [initialSession], by simp [initialSession],
    .nil, by simp [initialSession], by simp [initialSession], rfl⟩

theorem getElem?_kept {α : Type} {values : List α} {index : Nat} {value : α} (more : List α)
    (found : values[index]? = some value) : (values ++ more)[index]? = some value := by
  obtain ⟨inside, _⟩ := List.getElem?_eq_some_iff.mp found
  rw [List.getElem?_append_left inside, found]

theorem Resolved.more {server : ServerState} {served : List Served} (replies : List Reply)
    (resolved : Resolved session) : Resolved { session with
      server := server, served := served, replies := session.replies ++ replies } where
  value place promise result found holds := by
    obtain ⟨index, reply, before, listed, rest⟩ := resolved.value place promise result found holds
    exact ⟨index, reply, before, getElem?_kept replies listed, rest⟩
  handling place result found := by
    obtain ⟨index, reply, read, listed, rest⟩ := resolved.handling place result found
    exact ⟨index, reply, read, getElem?_kept replies listed, rest⟩

theorem Phased.more {server : ServerState} {served : List Served} {replies : List Reply}
    (phased : Phased start session) : Phased start { session with
      server := server, served := served, replies := replies } :=
  ⟨phased.logins, phased.executing, phased.shown, phased.places, phased.fresh, phased.granted,
    phased.sound⟩

theorem Numbered.more {server : ServerState} {served : List Served} {replies : List Reply}
    (numbered : Numbered start session) : Numbered start { session with
      server := server, served := served, replies := replies } :=
  ⟨numbered.seq, numbered.asked, numbered.promise, numbered.request⟩

theorem packetFor_some {output : Output} {packet : Packet}
    (forCon : packetFor con output = some packet) : output.packet = packet := by
  cases output with
  | send target sent =>
      simp only [packetFor, Option.ite_none_right_eq_some, Option.some.injEq] at forCon
      exact forCon.2
  | toGuard source target kind sent =>
      simp only [packetFor, Option.ite_none_right_eq_some, Option.some.injEq] at forCon
      exact forCon.2
  | toVisitor source target kind sent =>
      simp only [packetFor, Option.ite_none_right_eq_some, Option.some.injEq] at forCon
      exact forCon.2

theorem strangers_unlike {state server : ServerState} {event : Event}
    (stepped : serverStep md5 state event = some server) (strange : event.comesFrom con = false) :
    ∀ output ∈ server.outputs, ∀ packet, packetFor con output = some packet →
      ¬ packet.body.Answers := by
  intro output sent packet forCon
  by_cases asks : ∃ other message ambient, event = .message other message ambient ∧
      message.Asks = true
  · obtain ⟨other, message, ambient, rfl, isAsking⟩ := asks
    have different : other ≠ con := by simpa [Event.comesFrom] using strange
    cases serverStep_answersOnce stepped isAsking with
    | nothing silent _ =>
        rw [silent] at sent
        cases sent
    | answer answer _ once =>
        rw [once, List.nil_append, List.mem_singleton] at sent
        rw [sent, packetFor, if_neg different] at forCon
        cases forCon
  · have other := serverStep_other stepped fun other message ambient is => by
      rw [← Bool.not_eq_true]
      exact fun isAsking => asks ⟨other, message, ambient, is, isAsking⟩
    exact packetFor_some forCon ▸ other output sent

theorem InTurn.other {server : ServerState} (turns : InTurn md5 con session)
    (unlike : ∀ output ∈ server.outputs, ∀ packet, packetFor con output = some packet →
      ¬ packet.body.Answers) :
    InTurn md5 con (session.replying con none server) := by
  have split : ∀ (index : Nat) (reply : Reply),
      (session.replying con none server).replies[index]? = some reply →
      session.replies[index]? = some reply ∨
        reply.place = none ∧ ¬ reply.packet.body.Answers := by
    intro index reply listed
    rw [replying, List.getElem?_append] at listed
    split at listed
    · exact .inl listed
    · have member := List.mem_of_getElem? listed
      obtain ⟨packet, sent, rfl⟩ := List.mem_map.mp member
      obtain ⟨output, isOutput, forCon⟩ := List.mem_filterMap.mp sent
      exact .inr ⟨rfl, unlike output isOutput packet forCon⟩
  refine ⟨turns.order, ?_, ?_, ?_⟩
  · intro index reply place listed answers
    rcases split index reply listed with old | ⟨none, _⟩
    · exact turns.answers index reply place old answers
    · rw [none] at answers
      cases answers
  · intro index reply listed none
    rcases split index reply listed with old | ⟨_, unlike⟩
    · exact turns.others index reply old none
    · exact unlike
  · intro first second firstReply secondReply firstPlace secondPlace before listed listed' is is'
    rcases split first firstReply listed with old | ⟨none, _⟩
    · rcases split second secondReply listed' with old' | ⟨none, _⟩
      · exact turns.increasing first second firstReply secondReply firstPlace secondPlace before
          old old' is is'
      · rw [none] at is'
        cases is'
    · rw [none] at is
      cases is

theorem Numbered.answerable {place : Nat} {message : ClientMessage}
    (numbered : Numbered start session)
    (isAsked : session.asked[place]? = some message) : message.Asks = true := by
  rcases numbered.request place message isAsked with ⟨login, rfl⟩ | ⟨command, rfl⟩
  · rfl
  · rfl

theorem InTurn.serve {message : ClientMessage} {ambient : Ambient} {server : ServerState}
    (turns : InTurn md5 con session)
    (isNext : session.asked[session.served.length]? = some message)
    (asks : message.Asks = true)
    (stepped : serverStep md5 session.server (.message con message ambient) = some server) :
    InTurn md5 con { session.replying con (some session.served.length) server with
      served := session.served ++ [{
        before := session.server, message := message, ambient := ambient, after := server }] } := by
  have earlier : ∀ (index : Nat) (reply : Reply) (place : Nat),
      session.replies[index]? = some reply → reply.place = some place →
      place < session.served.length := by
    intro index reply place listed answers
    obtain ⟨served, found, _⟩ := turns.answers index reply place listed answers
    exact (List.getElem?_eq_some_iff.mp found).1
  have split : ∀ (index : Nat) (reply : Reply),
      (session.replying con (some session.served.length) server).replies[index]? = some reply →
      session.replies[index]? = some reply ∨ index = session.replies.length ∧
        reply.place = some session.served.length ∧ message.AnsweredBy reply.packet ∧
        server.outputs = [.send con reply.packet] := by
    intro index reply listed
    rw [replying, List.getElem?_append] at listed
    split at listed
    · exact .inl listed
    · rename_i outside
      cases serverStep_answersOnce stepped asks with
      | nothing silent _ => simp [silent] at listed
      | answer packet fits once =>
          simp only [once, List.nil_append, List.filterMap_cons, packetFor, if_pos,
            List.filterMap_nil, List.map_cons, List.map_nil, List.getElem?_singleton] at listed
          split at listed
          · obtain rfl := Option.some.inj listed
            exact .inr ⟨by omega, rfl, fits, once⟩
          · cases listed
  refine ⟨?_, ?_, ?_, ?_⟩
  · intro place served found
    rw [List.getElem?_append] at found
    split at found
    · exact turns.order place served found
    · rw [List.getElem?_singleton] at found
      split at found
      · obtain rfl := Option.some.inj found
        have last : place = session.served.length := by omega
        exact ⟨last ▸ isNext, stepped⟩
      · cases found
  · intro index reply place listed answers
    rcases split index reply listed with old | ⟨_, here, fits, once⟩
    · obtain ⟨served, found, rest⟩ := turns.answers index reply place old answers
      exact ⟨served, getElem?_kept _ found, rest⟩
    · rw [here, Option.some.injEq] at answers
      subst answers
      exact ⟨_, List.getElem?_concat_length, fits, once⟩
  · intro index reply listed none
    rcases split index reply listed with old | ⟨_, here, _⟩
    · exact turns.others index reply old none
    · rw [here] at none
      cases none
  · intro first second firstReply secondReply firstPlace secondPlace before listed listed' is is'
    rcases split second secondReply listed' with old' | ⟨last, here, _⟩
    · rcases split first firstReply listed with old | ⟨last, _⟩
      · exact turns.increasing first second firstReply secondReply firstPlace secondPlace before
          old old' is is'
      · have inside := (List.getElem?_eq_some_iff.mp old').1
        omega
    · rcases split first firstReply listed with old | ⟨last', _⟩
      · rw [here, Option.some.injEq] at is'
        exact is' ▸ earlier first firstReply firstPlace old is
      · omega

def asks (session : ManagerSession) (phase : ControlPhase) (message : ClientMessage) :
    ManagerSession :=
  { session with control := session.control.ask phase, asked := session.asked ++ [message] }

theorem Numbered.ask {phase : ControlPhase} {message : ClientMessage}
    (numbered : Numbered start session)
    (counted : (∃ login, message = .login login) ∨ ∃ command : Command,
      message = .management (command.request (session.control.seq + 1))) :
    Numbered start (session.asks phase message) := by
  have seq := numbered.seq
  have asked := numbered.asked
  refine ⟨?_, ?_, ?_, ?_⟩
  · simp only [asks, Control.ask, List.length_append, List.length_singleton]
    omega
  · simp only [asks, Control.ask, List.length_append, List.length_singleton]
    omega
  · intro place promise found
    simp only [asks, Control.ask, List.getElem?_append] at found
    split at found
    · exact numbered.promise place promise found
    · rw [List.getElem?_singleton] at found
      split at found
      · obtain rfl := Option.some.inj found
        show session.control.seq + 1 = start + place + 1
        omega
      · cases found
  · intro place sent found
    simp only [asks, List.getElem?_append] at found
    split at found
    · exact numbered.request place sent found
    · rw [List.getElem?_singleton] at found
      split at found
      · obtain rfl := Option.some.inj found
        have number : session.control.seq + 1 = start + place + 1 := by omega
        rw [← number]
        exact counted
      · cases found

theorem InTurn.ask {phase : ControlPhase} {message : ClientMessage}
    (turns : InTurn md5 con session) : InTurn md5 con (session.asks phase message) where
  order place served found := by
    obtain ⟨isAsked, stepped⟩ := turns.order place served found
    exact ⟨getElem?_kept _ isAsked, stepped⟩
  answers := turns.answers
  others := turns.others
  increasing := turns.increasing

theorem promises_ask {phase : ControlPhase} {message : ClientMessage} {place : Nat}
    {promise : Promise}
    (found : (session.asks phase message).control.promises[place]? = some promise)
    (resolved : promise.value.isSome = true) :
    session.control.promises[place]? = some promise := by
  simp only [asks, Control.ask, List.getElem?_append] at found
  split at found
  · exact found
  · rw [List.getElem?_singleton] at found
    split at found
    · obtain rfl := Option.some.inj found
      cases resolved
    · cases found

theorem Resolved.ask {phase : ControlPhase} {message : ClientMessage}
    (resolved : Resolved session) : Resolved (session.asks phase message) where
  value place promise result found holds :=
    resolved.value place promise result (promises_ask found (by rw [holds]; rfl)) holds
  handling place result found := by
    obtain ⟨index, reply, read, listed, isResult, inside, rest⟩ :=
      resolved.handling place result found
    refine ⟨index, reply, read, listed, isResult, ?_, rest⟩
    simp only [asks, Control.ask, List.length_append, List.length_singleton]
    omega

theorem Phased.answered (phased : Phased start session)
    (idle : session.control.phase ≠ .exited ∧
      ∀ tries, session.control.phase ≠ .loggingIn tries) {place : Nat} {login : LoginRequest}
    (isAsked : session.asked[place]? = some (.login login)) :
    ∃ promise, session.control.promises[place]? = some promise ∧
      promise.value.isSome = true := by
  rcases phased.logins place login isAsked with found | ⟨_, exited | ⟨tries, waits⟩⟩
  · exact found
  · exact absurd exited idle.1
  · exact absurd waits (idle.2 tries)

theorem Phased.ask {phase : ControlPhase} {message : ClientMessage}
    (phased : Phased start session)
    (idle : session.control.phase ≠ .exited ∧
      ∀ tries, session.control.phase ≠ .loggingIn tries)
    (waits : ∀ login, message = .login login → ∃ tries, phase = .loggingIn tries)
    (executes : ∀ command, phase = .executing command →
      message = .management (command.request (session.control.seq + 1)) ∧
        session.control.phase = .prompt)
    (behind : phase ≠ .prompt) : Phased start (session.asks phase message) := by
  have kept : ∀ (place : Nat) (promise : Promise),
      session.control.promises[place]? = some promise →
      (session.asks phase message).control.promises[place]? = some promise :=
    fun place promise found => getElem?_kept _ found
  refine ⟨fun place login isAsked => ?_, fun command isPhase => ?_, fun shown member => ?_,
    phased.places, fun command _ shown member => ?_, ?_, phased.sound⟩
  · simp only [asks, List.getElem?_append] at isAsked
    split at isAsked
    · obtain ⟨promise, found, isSome⟩ := phased.answered idle isAsked
      exact .inl ⟨promise, kept place promise found, isSome⟩
    · rw [List.getElem?_singleton] at isAsked
      split at isAsked
      · have last : place + 1 = (session.asked ++ [message]).length := by
          rw [List.length_append, List.length_singleton]
          omega
        exact .inr ⟨last, .inr (waits login (Option.some.inj isAsked))⟩
      · cases isAsked
  · simp only [asks, List.getLast?_append, List.getLast?_singleton, Option.some_or]
    rw [(executes command isPhase).1]
    rfl
  · obtain ⟨promise, found, holds, isAsked⟩ := phased.shown shown member
    exact ⟨promise, kept _ promise found, holds, getElem?_kept _ isAsked⟩
  · obtain ⟨promise, found, _⟩ := phased.shown shown member
    have inside := (List.getElem?_eq_some_iff.mp found).1
    simp only [asks, Control.ask, List.length_append, List.length_singleton]
    omega
  · rintro (isPrompt | ⟨command, isPhase⟩)
    · exact absurd isPrompt behind
    · obtain ⟨promise, member, rest⟩ := phased.granted (.inl (executes command isPhase).2)
      exact ⟨promise, List.mem_append_left _ member, rest⟩

theorem Accountable.ask {phase : ControlPhase} {message : ClientMessage}
    (accountable : Accountable md5 con start session)
    (counted : (∃ login, message = .login login) ∨ ∃ command : Command,
      message = .management (command.request (session.control.seq + 1)))
    (phased : Phased start (session.asks phase message)) :
    Accountable md5 con start (session.asks phase message) :=
  ⟨accountable.numbered.ask counted, accountable.turns.ask, accountable.resolved.ask, phased⟩

def turnsTo (session : ManagerSession) (phase : ControlPhase) : ManagerSession :=
  { session with control := { session.control with phase := phase } }

theorem Accountable.turnsTo {phase : ControlPhase}
    (accountable : Accountable md5 con start session)
    (phased : Phased start (session.turnsTo phase)) :
    Accountable md5 con start (session.turnsTo phase) where
  numbered := ⟨accountable.numbered.seq, accountable.numbered.asked,
    accountable.numbered.promise, accountable.numbered.request⟩
  turns := ⟨accountable.turns.order, accountable.turns.answers, accountable.turns.others,
    accountable.turns.increasing⟩
  resolved := ⟨accountable.resolved.value, accountable.resolved.handling⟩
  phased := phased

theorem Phased.exits (phased : Phased start session) :
    Phased start (session.turnsTo .exited) where
  logins place login isAsked := by
    rcases phased.logins place login isAsked with found | ⟨last, _⟩
    · exact .inl found
    · exact .inr ⟨last, .inl rfl⟩
  executing _ isPhase := by cases isPhase
  shown := phased.shown
  places := phased.places
  fresh _ isPhase := by cases isPhase
  granted := by
    rintro (isPhase | ⟨_, isPhase⟩)
    · cases isPhase
    · cases isPhase
  sound := phased.sound

theorem result_promise {result : Result} (given : session.control.result = some result) :
    ∃ promise ∈ session.control.promises, promise.value = some result ∧
      session.control.promises[session.control.promises.length - 1]? = some promise ∧
      0 < session.control.promises.length := by
  obtain ⟨promise, last, holds⟩ := Option.bind_eq_some_iff.mp given
  refine ⟨promise, List.mem_of_getLast? last, holds, ?_, ?_⟩
  · rw [← List.getLast?_eq_getElem?, last]
  · exact List.length_pos_of_mem (List.mem_of_getLast? last)

theorem Phased.loggedIn {result : Result} {tries : Nat} (numbered : Numbered start session)
    (phased : Phased start session) (given : session.control.result = some result) :
    Phased start (session.turnsTo (Control.afterLogin tries result)) := by
  obtain ⟨promise, member, holds, last, positive⟩ := result_promise given
  have executes : ∀ command, Control.afterLogin tries result ≠ .executing command := by
    intro command
    cases result with
    | login errCode errString =>
        rw [Control.afterLogin]
        split
        · simp
        · split <;> simp
    | management tag response => simp [Control.afterLogin]
  refine ⟨fun place login isAsked => ?_, fun command isPhase => absurd isPhase (executes command),
    phased.shown, phased.places, fun command isPhase => absurd isPhase (executes command), ?_,
    phased.sound⟩
  · rcases phased.logins place login isAsked with found | ⟨isLast, _⟩
    · exact .inl found
    · have here : place = session.control.promises.length - 1 := by
        have asked := numbered.asked
        omega
      exact .inl ⟨promise, here ▸ last, by rw [holds]; rfl⟩
  · rintro (isPrompt | ⟨command, isPhase⟩)
    · cases result with
      | login errCode errString =>
          by_cases granted : errCode = Err.noError
          · exact ⟨promise, member, errString, granted ▸ holds⟩
          · simp only [turnsTo, Control.afterLogin, if_neg granted] at isPrompt
            split at isPrompt
            · cases isPrompt
            · cases isPrompt
      | management tag response => cases isPrompt
    · exact absurd isPhase (executes command)

theorem Phased.timesOut {command : Command} (phased : Phased start session)
    (isPhase : session.control.phase = .executing command) :
    Phased start (session.turnsTo .prompt) where
  logins place login isAsked := by
    refine .inl (phased.answered ⟨?_, fun tries => ?_⟩ isAsked)
    · rw [isPhase]
      simp
    · rw [isPhase]
      simp
  executing _ isPrompt := by cases isPrompt
  shown := phased.shown
  places := phased.places
  fresh _ isPrompt := by cases isPrompt
  granted _ := phased.granted (.inr ⟨command, isPhase⟩)
  sound := phased.sound

theorem readResult_answers {packet : Packet} {result : Result}
    (isResult : readResult packet = some result) : packet.body.Answers := by
  rw [readResult] at isResult
  split at isResult
  · rename_i body
    rw [body]
    trivial
  · rename_i body
    rw [body]
    trivial
  · cases isResult

theorem readResult_login {login : LoginRequest} {packet : Packet} {result : Result}
    (fits : ClientMessage.AnsweredBy (.login login) packet)
    (isResult : readResult packet = some result) :
    ∃ errCode errString userId, result = .login errCode errString ∧
      packet = { tag := Tag.responseLogin, body := .login errCode errString userId } := by
  obtain ⟨tag, errCode, errString, userId, body⟩ := fits
  rw [readResult, body] at isResult
  simp only [tag, if_true, Option.some.injEq] at isResult
  exact ⟨errCode, errString, userId, isResult.symm, by rw [← tag, ← body]⟩

theorem readResult_management {request : ManagementRequest} {packet : Packet} {result : Result}
    (fits : ClientMessage.AnsweredBy (.management request) packet)
    (isResult : readResult packet = some result) :
    ∃ response, result = .management request.responseTag response ∧
      response.seq = request.seq ∧
      packet = { tag := request.responseTag, body := .management response } := by
  obtain ⟨tag, response, body, seq⟩ := fits
  rw [readResult, body] at isResult
  simp only at isResult
  split at isResult
  · exact ⟨response, tag ▸ (Option.some.inj isResult).symm, seq, by rw [← tag, ← body]⟩
  · cases isResult

theorem Accountable.answered (accountable : Accountable md5 con start session) {place : Nat}
    {promise : Promise} {result : Result}
    (found : session.control.promises[place]? = some promise)
    (holds : promise.value = some result) :
    ∃ served packet, session.served[place]? = some served ∧
      session.asked[place]? = some served.message ∧ served.message.AnsweredBy packet ∧
      served.after.outputs = [.send con packet] ∧ readResult packet = some result := by
  obtain ⟨index, reply, _, listed, isPlace, isResult⟩ :=
    accountable.resolved.value place promise result found holds
  obtain ⟨served, isServed, fits, once⟩ :=
    accountable.turns.answers index reply place listed isPlace
  exact ⟨served, reply.packet, isServed, (accountable.turns.order place served isServed).1, fits,
    once, isResult⟩

theorem Accountable.unresolved (accountable : Accountable md5 con start session)
    {index place : Nat} {reply : Reply} {promise : Promise}
    (listed : session.replies[index]? = some reply) (later : session.resolved ≤ index)
    (answers : reply.place = some place)
    (found : session.control.promises[place]? = some promise) : promise.value = none := by
  cases holds : promise.value with
  | none => rfl
  | some result =>
      obtain ⟨earlier, earlierReply, before, earlierListed, samePlace, _⟩ :=
        accountable.resolved.value place promise result found holds
      have smaller := accountable.turns.increasing earlier index earlierReply reply place place
        (by omega) earlierListed listed samePlace answers
      exact absurd smaller (Nat.lt_irrefl place)

theorem Accountable.executed {command : Command} {result : Result}
    (accountable : Accountable md5 con start session)
    (isPhase : session.control.phase = .executing command)
    (given : session.control.result = some result) :
    Accountable md5 con start
      { session with control := session.control.executed command result } := by
  obtain ⟨promise, _, holds, found, positive⟩ := result_promise given
  obtain ⟨served, packet, _, isAsked, fits, _, isResult⟩ := accountable.answered found holds
  have seq := accountable.numbered.seq
  have asked := accountable.numbered.asked
  have last := accountable.phased.executing command isPhase
  rw [List.getLast?_eq_getElem?, asked, isAsked, Option.some.injEq] at last
  rw [last] at fits
  obtain ⟨response, rfl, _, _⟩ := readResult_management fits isResult
  rw [Command.request_responseTag] at holds ⊢
  have number : start + ((session.control.promises.length - 1 : Nat) : Int) + 1 =
      session.control.seq := by omega
  have phased := accountable.phased
  rw [Control.executed, if_pos rfl]
  refine ⟨⟨seq, asked, accountable.numbered.promise, accountable.numbered.request⟩,
    ⟨accountable.turns.order, accountable.turns.answers, accountable.turns.others,
      accountable.turns.increasing⟩,
    ⟨accountable.resolved.value, accountable.resolved.handling⟩, ?_⟩
  refine ⟨fun place login isLogin => .inl (phased.answered ⟨?_, fun tries => ?_⟩ isLogin),
    fun _ isPrompt => (by cases isPrompt), fun shown member => ?_, ?_,
    fun _ isPrompt => (by cases isPrompt), fun _ => phased.granted (.inr ⟨command, isPhase⟩),
    phased.sound⟩
  · rw [isPhase]
    simp
  · rw [isPhase]
    simp
  · rcases List.mem_append.mp member with old | new
    · exact phased.shown shown old
    · obtain rfl := List.mem_singleton.mp new
      refine ⟨promise, found, holds, ?_⟩
      show session.asked[session.control.promises.length - 1]? = _
      rw [isAsked, last, number]
  · rw [List.map_append, List.pairwise_append]
    refine ⟨phased.places, List.pairwise_singleton _ _, fun place old place' new => ?_⟩
    obtain ⟨shown, member, rfl⟩ := List.mem_map.mp old
    have fresh := phased.fresh command isPhase shown member
    rw [List.map_singleton, List.mem_singleton] at new
    rw [new]
    show shown.place < session.control.promises.length - 1
    omega

theorem resolved_free (free : session.control.handling = none) :
    session.resolved = session.read := by
  rw [resolved, free]
  rfl

theorem Resolved.skips {control : Control} (resolved : Resolved session)
    (free : session.control.handling = none)
    (same : control.promises = session.control.promises) (stays : control.handling = none) :
    Resolved { session with control := control, read := session.read + 1 } := by
  have value := resolved.value
  rw [resolved_free free] at value
  refine ⟨fun place promise result found holds => ?_, fun place result isHandling => ?_⟩
  · obtain ⟨index, reply, before, rest⟩ := value place promise result (same ▸ found) holds
    have count : ManagerSession.resolved { session with
        control := control, read := session.read + 1 } = session.read + 1 := resolved_free stays
    exact ⟨index, reply, by omega, rest⟩
  · rw [stays] at isHandling
    cases isHandling

theorem Accountable.login_place (accountable : Accountable md5 con start session)
    {reply : Reply} {errCode : Int} {errString : String}
    (free : session.control.handling = none)
    (listed : session.replies[session.read]? = some reply)
    (isResult : readResult reply.packet = some (.login errCode errString)) :
    reply.place = some (session.control.promises.length - 1) := by
  cases answers : reply.place with
  | none =>
      exact absurd (readResult_answers isResult)
        (accountable.turns.others session.read reply listed answers)
  | some place =>
      obtain ⟨served, isServed, fits, _⟩ :=
        accountable.turns.answers session.read reply place listed answers
      have isAsked := (accountable.turns.order place served isServed).1
      have isLogin : ∃ login, served.message = .login login := by
        rcases accountable.numbered.request place served.message isAsked with
          isLogin | ⟨command, is⟩
        · exact isLogin
        · rw [is] at fits
          obtain ⟨_, other, _⟩ := readResult_management fits isResult
          cases other
      obtain ⟨login, is⟩ := isLogin
      rw [is] at isAsked
      rcases accountable.phased.logins place login isAsked with ⟨promise, found, isSome⟩ | ⟨last, _⟩
      · have later : session.resolved ≤ session.read := Nat.le_of_eq (resolved_free free)
        have nothing := accountable.unresolved listed later answers found
        rw [nothing] at isSome
        cases isSome
      · have asked := accountable.numbered.asked
        rw [show place = session.control.promises.length - 1 by omega]

theorem Accountable.receive {reply : Reply} (accountable : Accountable md5 con start session)
    (free : session.control.handling = none)
    (listed : session.replies[session.read]? = some reply) :
    Accountable md5 con start { session with
      control := session.control.receive reply.packet, read := session.read + 1 } := by
  have numbered := accountable.numbered
  have turns := accountable.turns
  have phased := accountable.phased
  rw [Control.receive]
  split
  · exact ⟨⟨numbered.seq, numbered.asked, numbered.promise, numbered.request⟩,
      ⟨turns.order, turns.answers, turns.others, turns.increasing⟩,
      accountable.resolved.skips free rfl free,
      ⟨phased.logins, phased.executing, phased.shown, phased.places, phased.fresh,
        phased.granted, phased.sound⟩⟩
  · rename_i result isResult
    split
    · exact ⟨⟨numbered.seq, numbered.asked, numbered.promise, numbered.request⟩,
        ⟨turns.order, turns.answers, turns.others, turns.increasing⟩,
        accountable.resolved.skips free rfl free,
        ⟨phased.logins, phased.executing, phased.shown, phased.places, phased.fresh,
          phased.granted, phased.sound⟩⟩
    · rename_i standing
      refine ⟨⟨numbered.seq, numbered.asked, numbered.promise, numbered.request⟩,
        ⟨turns.order, turns.answers, turns.others, turns.increasing⟩, ⟨?_, ?_⟩,
        ⟨phased.logins, phased.executing, phased.shown, phased.places, phased.fresh,
          phased.granted, phased.sound⟩⟩
      · have value := accountable.resolved.value
        rw [resolved_free free] at value
        exact value
      · intro place other isHandling
        obtain ⟨rfl, rfl⟩ := Prod.mk.inj (Option.some.inj isHandling)
        have positive : session.control.promises.length ≠ 0 := by
          simpa [List.isEmpty_iff] using standing
        refine ⟨session.read, reply, rfl, listed, isResult, ?_, fun errCode errString is => ?_⟩
        · show session.control.promises.length - 1 < session.control.promises.length
          omega
        · rw [is] at isResult
          exact accountable.login_place free listed isResult

/-- The reply that is being handled is for the promise it was given to, if it matches. -/
theorem Accountable.matching {place : Nat} {result : Result} {promise : Promise}
    (accountable : Accountable md5 con start session)
    (isHandling : session.control.handling = some (place, result))
    (found : session.control.promises[place]? = some promise)
    (fits : result.matches promise.seq = true) :
    ∃ index reply, session.read = index + 1 ∧ session.replies[index]? = some reply ∧
      reply.place = some place ∧ readResult reply.packet = some result := by
  obtain ⟨index, reply, read, listed, isResult, _, isLogin⟩ :=
    accountable.resolved.handling place result isHandling
  refine ⟨index, reply, read, listed, ?_, isResult⟩
  cases result with
  | login errCode errString => exact isLogin errCode errString rfl
  | management tag response =>
      cases answers : reply.place with
      | none =>
          exact absurd (readResult_answers isResult)
            (accountable.turns.others index reply listed answers)
      | some other =>
          obtain ⟨served, isServed, answered, _⟩ :=
            accountable.turns.answers index reply other listed answers
          have isAsked := (accountable.turns.order other served isServed).1
          rcases accountable.numbered.request other served.message isAsked with
            ⟨login, is⟩ | ⟨command, is⟩
          · rw [is] at answered
            obtain ⟨_, _, _, same, _⟩ := readResult_login answered isResult
            cases same
          · rw [is] at answered
            obtain ⟨own, same, seq, _⟩ := readResult_management answered isResult
            obtain ⟨_, rfl⟩ := Result.management.inj same
            have number := accountable.numbered.promise place promise found
            have equal : response.seq = promise.seq := by simpa [Result.matches] using fits
            rw [Command.request_seq] at seq
            rw [show other = place by omega]

theorem Accountable.setValue {place : Nat} {result : Result}
    (accountable : Accountable md5 con start session)
    (isHandling : session.control.handling = some (place, result)) :
    Accountable md5 con start
      { session with control := session.control.setValue place result } := by
  have numbered := accountable.numbered
  have turns := accountable.turns
  have phased := accountable.phased
  obtain ⟨_, _, _, _, _, inside, _⟩ := accountable.resolved.handling place result isHandling
  have found := List.getElem?_eq_getElem inside
  rw [Control.setValue, found]
  generalize session.control.promises[place] = promise at found
  simp only
  split
  · rename_i fits
    obtain ⟨index, reply, read, listed, isPlace, isResult⟩ :=
      accountable.matching isHandling found fits
    have count : session.resolved = index := by
      simp [ManagerSession.resolved, isHandling, read]
    have nothing := accountable.unresolved listed (Nat.le_of_eq count) isPlace found
    rw [if_neg (by simp [nothing])]
    have old : ∀ (other : Nat) (value : Promise), session.control.promises[other]? = some value →
        value.value.isSome = true → (session.control.promises.set place
          { promise with value := some result })[other]? = some value := by
      intro other value isValue isSome
      have apart : place ≠ other := by
        rintro rfl
        rw [found, Option.some.injEq] at isValue
        rw [← isValue, nothing] at isSome
        cases isSome
      rw [List.getElem?_set_ne apart, isValue]
    have cases' : ∀ (other : Nat) (value : Promise), (session.control.promises.set place
          { promise with value := some result })[other]? = some value →
        (other = place ∧ value = { promise with value := some result }) ∨
          session.control.promises[other]? = some value := by
      intro other value isValue
      by_cases same : place = other
      · subst same
        rw [List.getElem?_set_self inside, Option.some.injEq] at isValue
        exact .inl ⟨rfl, isValue.symm⟩
      · rw [List.getElem?_set_ne same] at isValue
        exact .inr isValue
    refine ⟨⟨?_, ?_, ?_, numbered.request⟩,
      ⟨turns.order, turns.answers, turns.others, turns.increasing⟩, ⟨?_, ?_⟩,
      ⟨?_, phased.executing, ?_, phased.places, ?_, ?_, phased.sound⟩⟩
    · simpa only [List.length_set] using numbered.seq
    · simpa only [List.length_set] using numbered.asked
    · intro other value isValue
      rcases cases' other value isValue with ⟨rfl, rfl⟩ | before
      · exact numbered.promise other promise found
      · exact numbered.promise other value before
    · intro other value outcome isValue holds
      have more : ManagerSession.resolved { session with control := { session.control with
          promises := session.control.promises.set place { promise with value := some result }
          handling := none } } = index + 1 := (resolved_free rfl).trans read
      rw [more]
      rcases cases' other value isValue with ⟨rfl, rfl⟩ | before
      · exact ⟨index, reply, Nat.lt_succ_self index, listed, isPlace,
          isResult.trans holds⟩
      · obtain ⟨earlier, reply, less, rest⟩ :=
          accountable.resolved.value other value outcome before holds
        exact ⟨earlier, reply, by omega, rest⟩
    · exact fun other outcome none => by cases none
    · intro other login isAsked
      rcases phased.logins other login isAsked with ⟨value, isValue, isSome⟩ | last
      · exact .inl ⟨value, old other value isValue isSome, isSome⟩
      · exact .inr last
    · intro shown member
      obtain ⟨value, isValue, holds, isAsked⟩ := phased.shown shown member
      exact ⟨value, old shown.place value isValue (by rw [holds]; rfl), holds, isAsked⟩
    · simpa only [List.length_set] using phased.fresh
    · intro isPhase
      obtain ⟨value, member, text, holds⟩ := phased.granted isPhase
      obtain ⟨other, isValue⟩ := List.mem_iff_getElem?.mp member
      exact ⟨value, List.mem_of_getElem? (old other value isValue (by rw [holds]; rfl)), text,
        holds⟩
  · refine ⟨⟨numbered.seq, numbered.asked, numbered.promise, numbered.request⟩,
      ⟨turns.order, turns.answers, turns.others, turns.increasing⟩, ⟨?_, ?_⟩,
      ⟨phased.logins, phased.executing, phased.shown, phased.places, phased.fresh,
        phased.granted, phased.sound⟩⟩
    · intro other value outcome isValue holds
      obtain ⟨earlier, reply, less, rest⟩ :=
        accountable.resolved.value other value outcome isValue holds
      have more : ManagerSession.resolved { session with
          control := { session.control with handling := none } } = session.read :=
        resolved_free rfl
      rw [more]
      have most : session.resolved ≤ session.read := by
        rw [ManagerSession.resolved]
        split <;> omega
      exact ⟨earlier, reply, by omega, rest⟩
    · exact fun other outcome none => by cases none

theorem Accountable.controlStep {event : ControlEvent}
    (accountable : Accountable md5 con start session)
    (stepped : session.controlStep secretKey event = some next) :
    Accountable md5 con start next := by
  have phased := accountable.phased
  simp only [ManagerSession.controlStep] at stepped
  split at stepped
  · rename_i password tries isPhase
    obtain rfl := Option.some.inj stepped
    refine accountable.ask (.inl ⟨_, rfl⟩) (phased.ask ?_ (fun _ _ => ⟨tries, rfl⟩) ?_ ?_)
    · simp [isPhase]
    · simp
    · simp
  · obtain ⟨result, given, rfl⟩ := Option.map_eq_some_iff.mp stepped
    exact accountable.turnsTo (phased.loggedIn accountable.numbered given)
  · split at stepped
    · obtain rfl := Option.some.inj stepped
      exact accountable.turnsTo phased.exits
    · cases stepped
  · rename_i command isPhase
    obtain rfl := Option.some.inj stepped
    refine accountable.ask (.inr ⟨command, rfl⟩) (phased.ask ?_ ?_ ?_ ?_)
    · simp [isPhase]
    · simp
    · intro other same
      obtain rfl := ControlPhase.executing.inj same
      exact ⟨rfl, isPhase⟩
    · simp
  · rename_i command isPhase
    obtain ⟨result, given, rfl⟩ := Option.map_eq_some_iff.mp stepped
    exact accountable.executed isPhase given
  · rename_i command isPhase
    split at stepped
    · obtain rfl := Option.some.inj stepped
      exact accountable.turnsTo (phased.timesOut isPhase)
    · cases stepped
  · obtain rfl := Option.some.inj stepped
    exact accountable.turnsTo phased.exits
  · obtain rfl := Option.some.inj stepped
    exact accountable.turnsTo phased.exits
  · split at stepped
    · rename_i reply free listed
      split at stepped
      · obtain rfl := Option.some.inj stepped
        exact accountable.receive free listed
      · obtain rfl := Option.some.inj stepped
        have numbered := accountable.numbered
        have turns := accountable.turns
        exact ⟨⟨numbered.seq, numbered.asked, numbered.promise, numbered.request⟩,
          ⟨turns.order, turns.answers, turns.others, turns.increasing⟩,
          ⟨accountable.resolved.value, accountable.resolved.handling⟩,
          ⟨phased.logins, phased.executing, phased.shown, phased.places, phased.fresh,
            phased.granted, phased.sound⟩⟩
    · cases stepped
  · obtain ⟨⟨place, result⟩, isHandling, rfl⟩ := Option.map_eq_some_iff.mp stepped
    exact accountable.setValue isHandling
  · obtain rfl := Option.some.inj stepped
    exact accountable.turnsTo phased.exits
  · cases stepped

theorem Accountable.step {event : SessionEvent} (accountable : Accountable md5 con start session)
    (stepped : session.step secretKey md5 con event = some next) :
    Accountable md5 con start next := by
  cases event with
  | control event =>
      simp only [ManagerSession.step] at stepped
      split at stepped
      · cases stepped
      · exact accountable.controlStep stepped
  | serve ambient =>
      obtain ⟨message, isNext, moved⟩ := Option.bind_eq_some_iff.mp stepped
      obtain ⟨server, handled, rfl⟩ := Option.map_eq_some_iff.mp moved
      have asks := accountable.numbered.answerable isNext
      exact ⟨accountable.numbered.more, accountable.turns.serve isNext asks handled,
        accountable.resolved.more _, accountable.phased.more⟩
  | server event =>
      simp only [ManagerSession.step] at stepped
      split at stepped
      · cases stepped
      · rename_i strange
        obtain ⟨server, moved, rfl⟩ := Option.map_eq_some_iff.mp stepped
        have unlike := strangers_unlike moved (Bool.eq_false_of_not_eq_true strange)
        exact ⟨accountable.numbered.more, accountable.turns.other unlike,
          accountable.resolved.more _, accountable.phased.more⟩

end

end ManagerSession

/-- The control program never resolves a promise twice and never fails its assertion. What it
shows for a command is the one answer of the server to that request, each once and in their
order, whatever came too late before it; and it shows a prompt only behind a login that the
server has granted. -/
theorem control_shows_answers (secretKey : String) (md5 : String → String) (con : ConnectionId)
    {server : ServerState} {start : Int} {session : ManagerSession}
    (reached : Transition.Reachable (ManagerSession.step secretKey md5 con)
      (initialSession server start) session) :
    session.control.fault = none ∧
      (session.control.shown.map Shown.place).Pairwise (· < ·) ∧
      (∀ shown ∈ session.control.shown, ∃ served, session.served[shown.place]? = some served ∧
        served.message = .management (shown.command.request (start + shown.place + 1)) ∧
        serverStep md5 served.before (.message con served.message served.ambient) =
          some served.after ∧
        served.after.outputs = [.send con {
          tag := shown.command.resultTag, body := .management shown.response }]) ∧
      ((session.control.phase = .prompt ∨
          ∃ command, session.control.phase = .executing command) →
        ∃ served ∈ session.served, ∃ login errString userId, served.message = .login login ∧
          serverStep md5 served.before (.message con served.message served.ambient) =
            some served.after ∧
          served.after.outputs = [.send con {
            tag := Tag.responseLogin, body := .login Err.noError errString userId }]) := by
  have accountable : session.Accountable md5 con start :=
    reached.invariant (ManagerSession.step secretKey md5 con)
      (fun _ _ _ accountable => accountable.step) (ManagerSession.Accountable.initial server)
  have phased := accountable.phased
  refine ⟨phased.sound, phased.places, fun shown member => ?_, fun isPhase => ?_⟩
  · obtain ⟨promise, found, holds, isAsked⟩ := phased.shown shown member
    obtain ⟨served, packet, isServed, sameAsked, fits, once, isResult⟩ :=
      accountable.answered found holds
    rw [isAsked, Option.some.injEq] at sameAsked
    rw [← sameAsked] at fits
    obtain ⟨response, same, _, rfl⟩ := ManagerSession.readResult_management fits isResult
    obtain ⟨_, rfl⟩ := Result.management.inj same
    rw [Command.request_responseTag] at once
    exact ⟨served, isServed, sameAsked.symm,
      (accountable.turns.order shown.place served isServed).2, once⟩
  · obtain ⟨promise, member, errString, holds⟩ := phased.granted isPhase
    obtain ⟨place, found⟩ := List.mem_iff_getElem?.mp member
    obtain ⟨served, packet, isServed, isAsked, fits, once, isResult⟩ :=
      accountable.answered found holds
    rcases accountable.numbered.request place served.message isAsked with
      ⟨login, is⟩ | ⟨command, is⟩
    · rw [is] at fits
      obtain ⟨_, _, userId, same, rfl⟩ := ManagerSession.readResult_login fits isResult
      obtain ⟨rfl, rfl⟩ := Result.login.inj same
      exact ⟨served, List.mem_of_getElem? isServed, login, _, userId, is,
        (accountable.turns.order place served isServed).2, once⟩
    · rw [is] at fits
      obtain ⟨_, same, _⟩ := ManagerSession.readResult_management fits isResult
      cases same

def oneManager : ServerState :=
  { initialServer twoAccounts with
    connections := updateAt (fun _ => none) 1 (some { server := .management })
    connected := updateAt (fun _ => false) 1 true }

def overtakenEvents : List SessionEvent :=
  [.control (.login "admin"), .serve {}, .control .receive, .control .setValue,
    .control .loginAnswered, .control (.execute (.enableAccount "guard")), .control .timeout,
    .control (.execute .listBlockedIPAddresses), .serve {}, .serve {}, .control .receive,
    .control .setValue, .control .receive, .control .setValue, .control .executed]

def overtakenSession : Option ManagerSession :=
  Transition.run (ManagerSession.step "key" noDigest 1) (initialSession oneManager 41)
    overtakenEvents

theorem overtakenSession_isSome : overtakenSession.isSome = true := by decide +kernel

theorem control_shows_answers_overtaken :
    (overtakenSession.get overtakenSession_isSome).control.shown = [{
        place := 2, command := .listBlockedIPAddresses
        response := { seq := 44, errCode := Err.noError } }] ∧
      (overtakenSession.get overtakenSession_isSome).control.fault = none :=
  ⟨by decide +kernel, (control_shows_answers "key" noDigest 1
    ⟨overtakenEvents, (Option.some_get overtakenSession_isSome).symm⟩).1⟩

end EasyViewer
