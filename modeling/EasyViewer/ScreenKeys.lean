import EasyViewer.Define
import EasyViewer.Library.Run

/-!
The screen guard's direct key. A subscription makes it, for one `ScreenGuardAbility`; the
capturer is one for the whole program and goes on over a change of the server. A frame is cut
between the early returns of `publishScreenFrame` and the encryption.
-/

namespace EasyViewer

structure RequestSubscribeScreen2 where
  asyncTaskId : UInt64
  asyncTaskCertificate : UInt32
  userId : UserId
  authString : String
  deriving DecidableEq, Repr

structure ResponseSubscribeScreen2 where
  asyncTaskId : UInt64
  asyncTaskCertificate : UInt32
  errCode : Int
  errString : String := ""
  secretKey : String := ""
  deriving DecidableEq, Repr

inductive ControlCommand where
  | mouseMove
  | keyPress
  | keyRelease
  | mouseButtonPress
  | mouseButtonRelease
  | mouseButtonDoubleClick
  | mouseWheel
  | setClipboardText
  | shortcut
  deriving DecidableEq, Repr

/-- What reaches the ability, as far as it can be decrypted with `aes()` and parsed, with what
`AES::newInstance` gives if it is called: a key or the text of its error. -/
inductive ScreenMessage where
  | subscribeScreen (request : Option RequestSubscribeScreen2) (newKey : Except String String)
  | control (command : ControlCommand)
  | setAutoPublishDesktop (enable : Option Bool)

structure ScreenGuard where
  connected : Bool := false
  loggedIn : Bool := false
  aesDirect : Option String := none
  subscribers : List UserId := []
  deriving DecidableEq, Repr

/-- `layers` are the sizes of what one `pushScreenFrame` has yet to publish; `passed` says that
`publishScreenFrame` is past its early returns with the first of them. -/
structure ScreenCapturer where
  stopped : Bool := true
  layers : List Nat := []
  passed : Bool := false
  deriving DecidableEq, Repr

/-- The program on the host. A null `m_aesDirect` that is used ends it. The outcomes of the
attempts to make a key, for the guard at hand, the last one first, are a history. -/
structure ScreenHost where
  capturer : Option ScreenCapturer
  guard : Option ScreenGuard := none
  keyMissing : Bool := false
  keys : List Bool := []
  deriving DecidableEq, Repr

namespace ScreenGuard

def insert (guard : ScreenGuard) (userId : UserId) : ScreenGuard :=
  if userId ∈ guard.subscribers then guard
  else { guard with subscribers := userId :: guard.subscribers }

def needsKey (guard : ScreenGuard) (request : RequestSubscribeScreen2) (capturer : Bool)
    (test : String → Bool) : Bool :=
  capturer && test request.authString && guard.subscribers.isEmpty

/-- `none` where the key of a null `m_aesDirect` is asked for. -/
def handleRequestOfSubscribeScreen (guard : ScreenGuard) (request : RequestSubscribeScreen2)
    (capturer : Bool) (test : String → Bool) (newKey : Except String String) :
    Option (ScreenGuard × ResponseSubscribeScreen2) :=
  let answer (errCode : Int) (errString secretKey : String) : ResponseSubscribeScreen2 := {
    asyncTaskId := request.asyncTaskId
    asyncTaskCertificate := request.asyncTaskCertificate
    errCode := errCode
    errString := errString
    secretKey := secretKey }
  if ¬ capturer then
    some (guard, answer Err.unsupported (formatError Err.unsupported) "")
  else if ¬ test request.authString then
    some (guard, answer Err.passwordIncorrect (formatError Err.passwordIncorrect) "")
  else if guard.subscribers.isEmpty then
    match newKey with
    | .error reason => some ({ guard with aesDirect := none }, answer Err.operateFailed reason "")
    | .ok key => some ({ guard with aesDirect := some key }.insert request.userId,
        answer Err.noError "" key)
  else guard.aesDirect.map fun key => (guard.insert request.userId, answer Err.noError "" key)

def handleConnectionLostEvent (guard : ScreenGuard) : ScreenGuard :=
  { guard with connected := false, loggedIn := false, subscribers := [] }

end ScreenGuard

namespace ScreenHost

def start (host : ScreenHost) : ScreenHost :=
  { host with capturer := host.capturer.map fun capturer => { capturer with stopped := false } }

def stop (host : ScreenHost) : ScreenHost :=
  { host with capturer := host.capturer.map fun capturer => { capturer with stopped := true } }

def subscribe (host : ScreenHost) (guard : ScreenGuard) (request : RequestSubscribeScreen2)
    (test : String → Bool) (newKey : Except String String) : ScreenHost :=
  let keys :=
    if guard.needsKey request host.capturer.isSome test then newKey.isOk :: host.keys
    else host.keys
  match guard.handleRequestOfSubscribeScreen request host.capturer.isSome test newKey with
  | none => { host with keyMissing := true }
  | some (guard, response) =>
      let host := { host with guard := some guard, keys := keys }
      if response.errCode = Err.noError then host.start else host

def handleCompleteData (host : ScreenHost) (guard : ScreenGuard) (test : String → Bool) :
    ScreenMessage → ScreenHost
  | .subscribeScreen none _ => host
  | .subscribeScreen (some request) newKey => host.subscribe guard request test newKey
  | .control _ => if guard.aesDirect.isNone then { host with keyMissing := true } else host
  | .setAutoPublishDesktop none => host
  | .setAutoPublishDesktop (some enable) => if enable then host.start else host.stop

def publishScreenFrame (host : ScreenHost) (capturer : ScreenCapturer) (size : Nat)
    (layers : List Nat) : ScreenHost :=
  if capturer.passed then
    if host.guard.any fun guard => guard.aesDirect.isNone then { host with keyMissing := true }
    else { host with capturer := some { capturer with layers := layers, passed := false } }
  else if size ≠ 0 ∧ host.guard.any fun guard => guard.loggedIn then
    { host with capturer := some { capturer with passed := true } }
  else { host with capturer := some { capturer with layers := layers } }

/-- The old guard goes before the new one is made; one that cannot be initialised is deleted. -/
def activateServerAddress (host : ScreenHost) (resolved initialized : Bool) : ScreenHost :=
  if ¬ resolved then host
  else { host with guard := if initialized then some {} else none, keys := [] }

end ScreenHost

inductive ScreenEvent where
  | activateServerAddress (resolved initialized : Bool)
  | connected
  | loggedIn
  | connectionLost
  | received (test : String → Bool) (message : ScreenMessage)
  | pushScreenFrame (layers : List Nat)
  | publishScreenFrame

/-- A follower cannot be removed while its callback runs. -/
def screenStep (host : ScreenHost) (event : ScreenEvent) : Option ScreenHost :=
  if host.keyMissing then none
  else
    match event with
    | .activateServerAddress resolved initialized =>
        if host.capturer.any fun capturer => capturer.passed then none
        else some (host.activateServerAddress resolved initialized)
    | .connected =>
        host.guard.map fun guard => { host with guard := some { guard with connected := true } }
    | .loggedIn =>
        (host.guard.filter fun guard => guard.connected).map fun guard =>
          { host with guard := some { guard with loggedIn := true } }
    | .connectionLost =>
        (host.guard.filter fun guard => guard.connected).map fun guard =>
          { host with guard := some guard.handleConnectionLostEvent }
    | .received test message =>
        (host.guard.filter fun guard => guard.connected).map fun guard =>
          host.handleCompleteData guard test message
    | .pushScreenFrame layers =>
        (host.capturer.filter fun capturer => capturer.layers.isEmpty).map fun capturer =>
          if capturer.stopped then host
          else { host with capturer := some { capturer with layers := layers } }
    | .publishScreenFrame =>
        host.capturer.bind fun capturer =>
          match capturer.layers with
          | [] => none
          | size :: layers => some (host.publishScreenFrame capturer size layers)

/-- No message and no frame has found the key missing. -/
def KeyPresent (host : ScreenHost) : Prop := host.keyMissing = false

def MadeKey (host : ScreenHost) : Prop := host.keys.head? = some true

/-- A control message, or a frame past the early returns, comes only after a key was made. -/
def ComesAfterKey (host : ScreenHost) : ScreenEvent → Prop
  | .received _ (.control _) => MadeKey host
  | .publishScreenFrame => (∃ capturer ∈ host.capturer, capturer.passed) → MadeKey host
  | _ => True

structure KeysKept (host : ScreenHost) : Prop where
  key : ∀ guard, host.guard = some guard → (guard.aesDirect.isSome ↔ MadeKey host)
  subscribed : ∀ guard, host.guard = some guard → guard.subscribers ≠ [] → guard.aesDirect.isSome
  followed : ∀ capturer, host.capturer = some capturer → capturer.passed → host.guard.isSome

namespace KeysKept

variable {host after : ScreenHost}

theorem of_capturer (kept : KeysKept host) (guard : after.guard = host.guard)
    (keys : after.keys = host.keys)
    (followed : ∀ capturer, after.capturer = some capturer → capturer.passed →
      host.guard.isSome) : KeysKept after where
  key other here := by
    rw [MadeKey, keys]
    exact kept.key other (guard ▸ here)
  subscribed other here := kept.subscribed other (guard ▸ here)
  followed := by
    rw [guard]
    exact followed

theorem start (kept : KeysKept host) : KeysKept host.start := by
  refine kept.of_capturer rfl rfl fun capturer isAfter passed => ?_
  obtain ⟨before, isBefore, rfl⟩ := Option.map_eq_some_iff.mp isAfter
  exact kept.followed before isBefore passed

theorem stop (kept : KeysKept host) : KeysKept host.stop := by
  refine kept.of_capturer rfl rfl fun capturer isAfter passed => ?_
  obtain ⟨before, isBefore, rfl⟩ := Option.map_eq_some_iff.mp isAfter
  exact kept.followed before isBefore passed

theorem keyMissing (kept : KeysKept host) : KeysKept { host with keyMissing := true } :=
  kept.of_capturer rfl rfl kept.followed

theorem replace (host : ScreenHost) {guard : ScreenGuard} {keys : List Bool}
    (key : guard.aesDirect.isSome ↔ keys.head? = some true)
    (subscribed : guard.subscribers ≠ [] → guard.aesDirect.isSome) :
    KeysKept { host with guard := some guard, keys := keys } where
  key other here := by
    cases here
    exact key
  subscribed other here := by
    cases here
    exact subscribed
  followed _ _ _ := rfl

end KeysKept

namespace ScreenGuard

theorem insert_aesDirect (guard : ScreenGuard) (userId : UserId) :
    (guard.insert userId).aesDirect = guard.aesDirect := by
  rw [insert]
  split
  · rfl
  · rfl

variable {guard : ScreenGuard} {request : RequestSubscribeScreen2} {capturer : Bool}
  {test : String → Bool} {newKey : Except String String}

inductive Subscribes (guard : ScreenGuard) (request : RequestSubscribeScreen2) (capturer : Bool)
    (test : String → Bool) (newKey : Except String String) :
    Option (ScreenGuard × ResponseSubscribeScreen2) → Prop
  | refused (response : ResponseSubscribeScreen2) (error : response.errCode ≠ Err.noError)
      (needless : guard.needsKey request capturer test = false) :
      Subscribes guard request capturer test newKey (some (guard, response))
  | keyless (response : ResponseSubscribeScreen2) (error : response.errCode ≠ Err.noError)
      (reason : String) (fails : newKey = .error reason) (alone : guard.subscribers = [])
      (needed : guard.needsKey request capturer test = true) :
      Subscribes guard request capturer test newKey
        (some ({ guard with aesDirect := none }, response))
  | first (response : ResponseSubscribeScreen2) (success : response.errCode = Err.noError)
      (key : String) (made : newKey = .ok key) (given : response.secretKey = key)
      (needed : guard.needsKey request capturer test = true) :
      Subscribes guard request capturer test newKey
        (some ({ guard with aesDirect := some key }.insert request.userId, response))
  | further (response : ResponseSubscribeScreen2) (success : response.errCode = Err.noError)
      (given : guard.aesDirect = some response.secretKey)
      (needless : guard.needsKey request capturer test = false) :
      Subscribes guard request capturer test newKey
        (some (guard.insert request.userId, response))
  | missing (others : guard.subscribers ≠ []) (missing : guard.aesDirect = none) :
      Subscribes guard request capturer test newKey none

theorem handleRequestOfSubscribeScreen_cases :
    Subscribes guard request capturer test newKey
      (guard.handleRequestOfSubscribeScreen request capturer test newKey) := by
  have unsupported : Err.unsupported ≠ Err.noError := by decide
  have incorrect : Err.passwordIncorrect ≠ Err.noError := by decide
  have failed : Err.operateFailed ≠ Err.noError := by decide
  simp only [handleRequestOfSubscribeScreen]
  split
  · rename_i absent
    exact .refused _ unsupported (by simp [needsKey, absent])
  · rename_i present
    rw [not_not] at present
    split
    · rename_i refuses
      exact .refused _ incorrect (by simp [needsKey, refuses])
    · rename_i passes
      rw [not_not] at passes
      split
      · rename_i alone
        have needed : guard.needsKey request capturer test = true := by
          simp [needsKey, present, passes, alone]
        cases newKey with
        | error reason => exact .keyless _ failed reason rfl (List.isEmpty_iff.mp alone) needed
        | ok key => exact .first _ rfl key rfl rfl needed
      · rename_i others
        have needless : guard.needsKey request capturer test = false := by
          simp [needsKey, others]
        cases isKey : guard.aesDirect with
        | none => exact .missing (fun alone => others (by rw [alone]; rfl)) isKey
        | some key => exact .further _ rfl isKey needless

end ScreenGuard

theorem subscribe_kept {host : ScreenHost} {guard : ScreenGuard} (kept : KeysKept host)
    (here : host.guard = some guard) (request : RequestSubscribeScreen2) (test : String → Bool)
    (newKey : Except String String) :
    KeysKept (host.subscribe guard request test newKey) ∧
      (host.subscribe guard request test newKey).keyMissing = host.keyMissing := by
  have key := kept.key guard here
  have subscribed := kept.subscribed guard here
  have cases := @ScreenGuard.handleRequestOfSubscribeScreen_cases guard request
    host.capturer.isSome test newKey
  simp only [ScreenHost.subscribe]
  generalize guard.handleRequestOfSubscribeScreen request host.capturer.isSome test newKey =
    result at cases
  cases cases with
  | refused response error needless =>
      simp only [needless, Bool.false_eq_true, ↓reduceIte, if_neg error]
      exact ⟨.replace host key subscribed, trivial⟩
  | keyless response error reason fails alone needed =>
      simp only [needed, ↓reduceIte, if_neg error, fails]
      refine ⟨.replace host (by simp [Except.isOk, Except.toBool]) fun others => ?_, trivial⟩
      exact absurd alone others
  | first response success key made given needed =>
      simp only [needed, ↓reduceIte, if_pos success, made]
      have isKey := ScreenGuard.insert_aesDirect { guard with aesDirect := some key } request.userId
      refine ⟨.start (.replace host ?_ fun _ => ?_), rfl⟩
      · simp [isKey, Except.isOk, Except.toBool]
      · simp [isKey]
  | further response success given needless =>
      simp only [needless, Bool.false_eq_true, ↓reduceIte, if_pos success]
      have isKey := guard.insert_aesDirect request.userId
      refine ⟨.start (.replace host ?_ fun _ => ?_), rfl⟩
      · rw [isKey]
        exact key
      · rw [isKey, given]
        rfl
  | missing others missing =>
      have isSome := subscribed others
      rw [missing] at isSome
      contradiction

theorem received_exact {host : ScreenHost} {guard : ScreenGuard} (kept : KeysKept host)
    (present : KeyPresent host) (here : host.guard = some guard) (test : String → Bool)
    (message : ScreenMessage) :
    KeysKept (host.handleCompleteData guard test message) ∧
      (KeyPresent (host.handleCompleteData guard test message) ↔
        ComesAfterKey host (.received test message)) := by
  match message with
  | .subscribeScreen none _ => exact ⟨kept, iff_of_true present trivial⟩
  | .subscribeScreen (some request) newKey =>
      have subscribes := subscribe_kept kept here request test newKey
      exact ⟨subscribes.1, iff_of_true (subscribes.2.trans present) trivial⟩
  | .setAutoPublishDesktop none => exact ⟨kept, iff_of_true present trivial⟩
  | .setAutoPublishDesktop (some true) => exact ⟨kept.start, iff_of_true present trivial⟩
  | .setAutoPublishDesktop (some false) => exact ⟨kept.stop, iff_of_true present trivial⟩
  | .control command =>
      have key := kept.key guard here
      simp only [ScreenHost.handleCompleteData]
      split
      · rename_i missing
        refine ⟨kept.keyMissing, iff_of_false (fun found => ?_) fun made => ?_⟩
        · cases found
        · have isSome := key.mpr made
          rw [Option.isNone_iff_eq_none.mp missing] at isSome
          contradiction
      · rename_i found
        rw [Bool.not_eq_true, Option.isNone_eq_false_iff] at found
        exact ⟨kept, iff_of_true present (key.mp found)⟩

theorem publish_exact {host : ScreenHost} {capturer : ScreenCapturer} (kept : KeysKept host)
    (present : KeyPresent host) (here : host.capturer = some capturer) (size : Nat)
    (layers : List Nat) :
    KeysKept (host.publishScreenFrame capturer size layers) ∧
      (KeyPresent (host.publishScreenFrame capturer size layers) ↔
        ComesAfterKey host .publishScreenFrame) := by
  have condition : ComesAfterKey host .publishScreenFrame ↔ (capturer.passed → MadeKey host) := by
    rw [ComesAfterKey, here]
    simp
  rw [condition]
  simp only [ScreenHost.publishScreenFrame]
  split
  · rename_i passed
    have followed := kept.followed capturer here passed
    obtain ⟨guard, isGuard⟩ := Option.isSome_iff_exists.mp followed
    have key := kept.key guard isGuard
    split
    · rename_i missing
      rw [isGuard, Option.any_some] at missing
      refine ⟨kept.keyMissing, iff_of_false (fun found => ?_) fun made => ?_⟩
      · cases found
      · have isSome := key.mpr (made passed)
        rw [Option.isNone_iff_eq_none.mp missing] at isSome
        contradiction
    · rename_i found
      rw [isGuard, Option.any_some, Bool.not_eq_true, Option.isNone_eq_false_iff] at found
      exact ⟨kept.of_capturer rfl rfl fun _ _ _ => followed,
        iff_of_true present fun _ => key.mp found⟩
  · rename_i still
    have isHere : ∀ passed : capturer.passed, MadeKey host := fun passed => absurd passed still
    split
    · rename_i goes
      refine ⟨kept.of_capturer rfl rfl fun _ _ _ => ?_, iff_of_true present isHere⟩
      cases isGuard : host.guard with
      | none => simp [isGuard] at goes
      | some guard => rfl
    · refine ⟨kept.of_capturer rfl rfl fun after isAfter passed => ?_, iff_of_true present isHere⟩
      cases isAfter
      exact absurd passed still

theorem screen_exact {host next : ScreenHost} {event : ScreenEvent} (kept : KeysKept host)
    (present : KeyPresent host) (stepped : screenStep host event = some next) :
    KeysKept next ∧ (KeyPresent next ↔ ComesAfterKey host event) := by
  have runs : ¬ host.keyMissing = true := fun missing => by
    rw [present] at missing
    contradiction
  cases event with
  | activateServerAddress resolved initialized =>
      simp only [screenStep, if_neg runs] at stepped
      split at stepped
      · contradiction
      · rename_i free
        cases stepped
        rw [ScreenHost.activateServerAddress]
        split
        · exact ⟨kept, iff_of_true present trivial⟩
        · refine ⟨⟨fun guard here => ?_, fun guard here => ?_, fun capturer here passed => ?_⟩,
            iff_of_true present trivial⟩
          · split at here
            · cases here
              simp [MadeKey]
            · contradiction
          · split at here
            · cases here
              exact fun others => absurd rfl others
            · contradiction
          · rw [show host.capturer = some capturer from here, Option.any_some] at free
            exact absurd passed free
  | connected =>
      simp only [screenStep, if_neg runs] at stepped
      obtain ⟨guard, here, rfl⟩ := Option.map_eq_some_iff.mp stepped
      exact ⟨.replace host (kept.key guard here) (kept.subscribed guard here),
        iff_of_true present trivial⟩
  | loggedIn =>
      simp only [screenStep, if_neg runs] at stepped
      obtain ⟨guard, isConnected, rfl⟩ := Option.map_eq_some_iff.mp stepped
      have here := (Option.filter_eq_some_iff.mp isConnected).1
      exact ⟨.replace host (kept.key guard here) (kept.subscribed guard here),
        iff_of_true present trivial⟩
  | connectionLost =>
      simp only [screenStep, if_neg runs] at stepped
      obtain ⟨guard, isConnected, rfl⟩ := Option.map_eq_some_iff.mp stepped
      have here := (Option.filter_eq_some_iff.mp isConnected).1
      exact ⟨.replace host (kept.key guard here) fun others => absurd rfl others,
        iff_of_true present trivial⟩
  | received test message =>
      simp only [screenStep, if_neg runs] at stepped
      obtain ⟨guard, isConnected, rfl⟩ := Option.map_eq_some_iff.mp stepped
      have here := (Option.filter_eq_some_iff.mp isConnected).1
      exact received_exact kept present here test message
  | pushScreenFrame layers =>
      simp only [screenStep, if_neg runs] at stepped
      obtain ⟨capturer, isFree, rfl⟩ := Option.map_eq_some_iff.mp stepped
      have here := (Option.filter_eq_some_iff.mp isFree).1
      split
      · exact ⟨kept, iff_of_true present trivial⟩
      · refine ⟨kept.of_capturer rfl rfl fun after isAfter passed => ?_,
          iff_of_true present trivial⟩
        cases isAfter
        exact kept.followed capturer here passed
  | publishScreenFrame =>
      simp only [screenStep, if_neg runs] at stepped
      obtain ⟨capturer, here, stepped⟩ := Option.bind_eq_some_iff.mp stepped
      split at stepped
      · contradiction
      · cases stepped
        exact publish_exact kept present here _ _

def startedHost (captures : Bool) : ScreenHost where
  capturer := if captures then some {} else none

/-- In every run of subscriptions, other messages, frames, logins, losses and changes of the
server: no key is used that is missing, just when each control message and each frame past the
early returns comes to a guard that has made one. -/
theorem key_present_iff (captures : Bool) (events : List ScreenEvent) :
    Transition.Throughout screenStep KeyPresent (startedHost captures) events ↔
      Transition.Happening screenStep ComesAfterKey (startedHost captures) events := by
  have kept : KeysKept (startedHost captures) := by
    refine ⟨fun guard here => ?_, fun guard here => ?_, fun capturer here passed => ?_⟩
    · contradiction
    · contradiction
    · cases captures with
      | false => contradiction
      | true =>
          cases here
          contradiction
  exact Transition.Throughout.iff_happening screenStep KeysKept
    (fun host event next kept present stepped => screen_exact kept present stepped) kept rfl

/-- A viewer subscribes, the host's user activates another server, and the new guard logs in. -/
def changedServer : List ScreenEvent := [
  .activateServerAddress true true, .connected, .loggedIn,
  .received (fun _ => true) (.subscribeScreen (some {
    asyncTaskId := 1, asyncTaskCertificate := 1, userId := 7, authString := "" }) (.ok "k")),
  .activateServerAddress true true, .connected, .loggedIn,
  .pushScreenFrame [100], .publishScreenFrame, .publishScreenFrame]

theorem changedServer_misses_key :
    ¬ Transition.Throughout screenStep KeyPresent (startedHost true) changedServer := by
  intro throughout
  have ran : ∃ host, Transition.run screenStep (startedHost true) changedServer = some host ∧
      host.keyMissing = true := ⟨_, rfl, rfl⟩
  obtain ⟨host, ran, missing⟩ := ran
  have present : host.keyMissing = false := throughout.final screenStep ran
  exact absurd (missing.symm.trans present) (by decide)

end EasyViewer
