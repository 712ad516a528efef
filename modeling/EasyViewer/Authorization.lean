import EasyViewer.ServerOutputs
import EasyViewer.Visits

/-!
Messages of visitors to guards. Terminal input is passed on for viewers only; the other
relays ask for the target that a visitor has named and not for the guard's consent, so
a message gets through that comes before the answer or after the visit has ended.
-/

namespace EasyViewer

/-- What a step passes on to a guard comes from a viewer of that guard's room. -/
def RelaysAuthorized (state next : ServerState) : Prop :=
  ∀ source target kind packet, Output.toGuard source target kind packet ∈ next.outputs →
    ∃ userId room, state.rooms kind userId = some room ∧ room.owner = target ∧
      room.holds source = true

/-- A message of an unchecked kind that is on its way to a guard comes from a visitor whose
visit of that kind was accepted, and has not ended since. -/
def SenderAccepted (history : List RoomChange) (state : ServerState) (event : Event) : Prop :=
  ∀ con connection message ambient kind, event = .message con message ambient →
    state.connections con = some connection →
    visitorRelay state connection message ambient = some kind →
    Accepted history kind connection.targetUserId con

section

variable {md5 : String → String} {state : ServerState} {connection : Connection}
  {ambient : Ambient}

theorem visitorRelay_passes (md5 : String → String) (con : ConnectionId) {message : ClientMessage}
    {kind : Kind} (relays : visitorRelay state connection message ambient = some kind) :
    ∃ room packet, state.rooms kind connection.targetUserId = some room ∧
      Output.toGuard con room.owner kind packet ∈
        (handle md5 state con connection message ambient).outputs := by
  obtain ⟨addressed, there⟩ := Option.filter_eq_some_iff.mp relays
  rw [Bool.and_eq_true] at there
  obtain ⟨user, bound⟩ := Option.isSome_iff_exists.mp there.1
  obtain ⟨room, stands⟩ := Option.isSome_iff_exists.mp there.2
  cases message with
  | fileRequest which request =>
      simp only at addressed
      split at addressed
      · rename_i allowed
        obtain ⟨role, readable, notGuard, targeted⟩ := allowed
        cases addressed
        refine ⟨room, { tag := which.handler.tagRequest
                        body := .file { request with userId := user.id } }, stands, ?_⟩
        simp only [handle, UsualRequest.handle]
        rw [ServerState.checked_passed role bound, ServerState.parse_readable readable,
          if_pos notGuard, if_neg targeted, stands]
        exact List.mem_append_right _ (List.mem_singleton.mpr rfl)
      · contradiction
  | fileResponse which response =>
      simp only at addressed
      split at addressed
      · rename_i allowed
        obtain ⟨role, readable, notGuard, targeted⟩ := allowed
        cases addressed
        refine ⟨room, { tag := which.handler.tagResponse, body := .file response }, stands, ?_⟩
        simp only [handle, UsualResponseHandler.handle]
        rw [ServerState.checked_passed role bound, ServerState.parse_readable readable,
          if_pos notGuard, if_neg targeted, stands]
        exact List.mem_append_right _ (List.mem_singleton.mpr rfl)
      · contradiction
  | screenControl control data =>
      simp only at addressed
      split at addressed
      · rename_i role
        cases addressed
        refine ⟨room, { tag := control.tag, body := .raw data }, stands, ?_⟩
        simp only [handle, screenVisitorTransferingOnly]
        rw [ServerState.checked_passed (by simpa using role) bound, stands]
        exact List.mem_append_right _ (List.mem_singleton.mpr rfl)
      · contradiction
  | setClipboardText data =>
      simp only at addressed
      split at addressed
      · rename_i allowed
        cases addressed
        refine ⟨room, { tag := Tag.controlSetClipboardText, body := .raw data }, stands, ?_⟩
        simp only [handle, setClipboardText]
        rw [ServerState.checked_passed rfl bound, if_pos allowed.1, if_neg allowed.2, stands]
        exact List.mem_append_right _ (List.mem_singleton.mpr rfl)
      · contradiction
  | _ => contradiction

/-- A step is authorized if the senders of the unchecked kinds are viewers. -/
theorem relaysAuthorized_iff {next : ServerState} {event : Event} (agree : VisitsAgree state)
    (stepped : serverStep md5 state event = some next) :
    RelaysAuthorized state next ↔
      ∀ con connection message ambient kind, event = .message con message ambient →
        state.connections con = some connection →
        visitorRelay state connection message ambient = some kind →
        Member state.rooms kind connection.targetUserId con := by
  constructor
  · rintro authorized con connection message ambient kind rfl known relays
    obtain ⟨_, happened⟩ := serverStep_some.mp stepped
    obtain ⟨other, registered, _, _, rfl⟩ := eventStep_message happened
    have same : connection = other := Option.some.inj (known.symm.trans registered)
    subst same
    have onItsWay : visitorRelay { state with outputs := [] } connection message ambient =
        some kind := relays
    obtain ⟨room, packet, _, sent⟩ := visitorRelay_passes md5 con onItsWay
    obtain ⟨userId, holder, stands, _, held⟩ := authorized con room.owner kind packet sent
    have member : Member state.rooms kind userId con := ⟨holder, stands, held⟩
    obtain ⟨viewer, visitor⟩ := agree.viewers kind userId con member
    have isViewer : connection = viewer := Option.some.inj (known.symm.trans visitor.known)
    rw [isViewer, visitor.target]
    exact member
  · intro viewers source target kind packet sent
    rcases serverStep_outputs stepped sent with plain |
      ⟨con, message, ambient, connection, isMessage, known, other, room, passed, isPassed, _,
        stands, allowed⟩ |
      ⟨_, _, _, _, _, _, _, isQuestion⟩
    · contradiction
    · cases isPassed
      refine ⟨connection.targetUserId, room, stands, rfl, ?_⟩
      rcases allowed with relays | ⟨_, held⟩
      · obtain ⟨holder, isHolder, held⟩ :=
          viewers source connection message ambient kind isMessage known relays
        rw [stands, Option.some.injEq] at isHolder
        rw [isHolder]
        exact held
      · exact held
    · contradiction

/-- Everything that a run passes on to guards comes from viewers of their rooms, in exactly those
runs in which a file message, a screen control or a clipboard text on its way to a guard always
comes after its sender was let in, and before that visit has ended. -/
theorem relays_authorized_iff (md5 : String → String) (accountManager : AccountManager)
    (events : List Event) :
    (∀ before state event next, Transition.Happens (serverStep md5) (initialServer accountManager)
        events before state event next → RelaysAuthorized state next) ↔
      ∀ before state event next, Transition.Happens (serverStep md5) (initialServer accountManager)
        events before state event next →
        SenderAccepted (roomHistory md5 (initialServer accountManager) before) state event := by
  refine forall_congr' fun before => forall_congr' fun state => forall_congr' fun event =>
    forall_congr' fun next => imp_congr_right ?_
  rintro ⟨_, ran, stepped⟩
  have running := (serverStep_some.mp stepped).1
  rw [relaysAuthorized_iff (visitsAgree_run ran running) stepped]
  refine forall_congr' fun con => forall_congr' fun connection => forall_congr' fun message =>
    forall_congr' fun ambient => forall_congr' fun kind => imp_congr_right fun _ =>
    imp_congr_right fun _ => imp_congr_right fun _ => ?_
  exact member_iff_accepted ran running kind connection.targetUserId con

end

def earlyRequest : List Event := [
  .connect 1 .application "10.0.0.1",
  .connect 2 .application "10.0.0.2",
  .message 1 (.login {
    account := "guard", password := "", role := Role.fileTransmissionGuard, secretKey := "k" }) {},
  .message 2 (.login {
    account := "visitor", password := "", role := Role.fileTransmissionVisitor
    secretKey := "k" }) {},
  .message 2 (.requestVisit .fileTransmission { userId := 1, authString := "" }) {}]

theorem earlyRequest_is_passed_on :
    ∃ state next, Transition.run (serverStep noDigest) (initialServer twoAccounts) earlyRequest =
        some state ∧
      serverStep noDigest state
        (.message 2 (.fileRequest .deleteEntry { userId := 1 }) {}) = some next ∧
      ¬ RelaysAuthorized state next := by
  have agree := @visitsAgree_run noDigest twoAccounts _ earlyRequest rfl rfl
  refine ⟨_, _, rfl, rfl, fun authorized => ?_⟩
  obtain ⟨userId, room, stands, _, held⟩ := authorized 2 1 .fileTransmission _
    (List.mem_singleton.mpr rfl)
  obtain ⟨connection, visitor⟩ := agree.viewers .fileTransmission userId 2 ⟨room, stands, held⟩
  have target := visitor.target
  rw [← Option.some.inj visitor.known] at target
  cases target
  cases stands
  contradiction

end EasyViewer
