import EasyViewer.ServerOutputs
import EasyViewer.Visits

/-!
Who can let a visitor in. The room is found from the task, so the answer may come from
any guard of the kind; what it has to show is the task's certificate, and the server
gives that to nobody but the owner of the room.
-/

namespace EasyViewer

/-- Whoever comes into a room comes in by a message of the connection that owns it. -/
def OwnerAdmits (state : ServerState) (event : Event) (next : ServerState) : Prop :=
  ∀ kind userId con, Member next.rooms kind userId con → ¬ Member state.rooms kind userId con →
    ∃ room message ambient, state.rooms kind userId = some room ∧
      event = .message room.owner message ambient

/-- Whoever comes into a room comes in by the success answer of a guard of the kind, which names
the outstanding task that asked for this visit and shows its certificate. -/
def CertificateAdmits (state : ServerState) (event : Event) (next : ServerState) : Prop :=
  ∀ kind userId con, Member next.rooms kind userId con → ¬ Member state.rooms kind userId con →
    ∃ who connection user response ambient task,
      event = .message who (.responseVisit2 kind response) ambient ∧
        state.connections who = some connection ∧ connection.user = some user ∧
        Role.includes connection.role kind.guardRole = true ∧ response.errCode = Err.noError ∧
        state.findTask response.taskId = some task ∧
        task.certificate = response.certificate ∧ task.destroyed = false ∧
        task.kind = kind ∧ task.partnerUserId = userId ∧ task.src = con

/-- A question to a guard, the only place for a certificate, is a task's first turn and goes to
the owner of the room that the task is for. -/
def CertificateForOwner (state : ServerState) (event : Event) (next : ServerState) : Prop :=
  ∀ output ∈ next.outputs, output.packet.body.Asks →
    ∃ taskId task, event = .execute taskId ∧ state.findTask taskId = some task ∧
      AsksOwner state task output

def AdmitsByCertificate (md5 : String → String) (state : ServerState) (event : Event) : Prop :=
  ∀ next, serverStep md5 state event = some next → next.fault = none →
    CertificateAdmits state event next ∧ CertificateForOwner state event next

section

variable {md5 : String → String} {state next : ServerState} {event : Event}

theorem certificateAdmits_step (stepped : serverStep md5 state event = some next)
    (runs : next.fault = none) : CertificateAdmits state event next := by
  intro kind userId con after before
  rw [serverStep_rooms stepped runs, member_apply (roomChange_valid state event)] at after
  rcases after with admits | ⟨already, _⟩
  · obtain ⟨who, connection, response, ambient, task, isAnswer, known, admitted, _, isKind,
      isPartner, isSource⟩ := roomChange_admits admits
    obtain ⟨answered, passes⟩ := Option.filter_eq_some_iff.mp admitted
    obtain ⟨role, ⟨user, bound⟩, _, found, certified, outstanding, _⟩ := answeredTask_some answered
    rw [Bool.and_eq_true] at passes
    have accepted := (VisitTask.letsIn_room passes.2).1
    exact ⟨who, connection, user, response, ambient, task, isAnswer, known, bound, role, accepted,
      found, certified, outstanding, isKind, isPartner, isSource⟩
  · exact absurd already before

theorem PassesOn.not_asks {con : ConnectionId} {connection : Connection}
    {message : ClientMessage} {ambient : Ambient} {output : Output}
    (passes : PassesOn state con connection message ambient output) :
    ¬ output.packet.body.Asks := by
  obtain ⟨kind, room, packet, rfl, harmless, _⟩ := passes
  exact harmless

theorem Output.Plain.not_asks {output : Output} (plain : output.Plain) :
    ¬ output.packet.body.Asks := by
  cases output with
  | send target packet => exact plain
  | toVisitor source target kind packet => exact plain
  | toGuard source target kind packet => contradiction

theorem certificateForOwner_step (stepped : serverStep md5 state event = some next) :
    CertificateForOwner state event next := by
  intro output sent asks
  rcases serverStep_outputs stepped sent with plain | ⟨_, _, _, _, _, _, passes⟩ | question
  · exact absurd asks plain.not_asks
  · exact absurd asks passes.not_asks
  · exact question

/-- In every run a visitor comes into a guard's room only by an answer that shows the certificate
of the visitor's own task, and the server sends a certificate to the owner of the room alone. -/
theorem admits_by_certificate (md5 : String → String) (accountManager : AccountManager)
    (events : List Event) :
    Transition.Happening (serverStep md5) (AdmitsByCertificate md5)
      (initialServer accountManager) events := by
  have always : ∀ state event, AdmitsByCertificate md5 state event := by
    intro state event next stepped runs
    exact ⟨certificateAdmits_step stepped runs, certificateForOwner_step stepped⟩
  exact Transition.Along.of_forall _ (fun state event _ _ => always state event) _ events

end

def threeAccounts : AccountManager where
  rows := [
    { id := 1, account := "guard" }, { id := 2, account := "visitor" },
    { id := 3, account := "other" }]

def askedGuard : List Event := [
  .connect 1 .application "10.0.0.1",
  .connect 2 .application "10.0.0.2",
  .connect 3 .application "10.0.0.3",
  .message 1 (.login {
    account := "guard", password := "", role := Role.fileTransmissionGuard, secretKey := "k" }) {},
  .message 2 (.login {
    account := "visitor", password := "", role := Role.fileTransmissionVisitor
    secretKey := "k" }) {},
  .message 3 (.login {
    account := "other", password := "", role := Role.fileTransmissionGuard, secretKey := "k" }) {},
  .message 2 (.requestVisit .fileTransmission { userId := 1, authString := "" }) {},
  .execute 1]

theorem other_guard_admits :
    ∃ state event next,
      Transition.run (serverStep noDigest) (initialServer threeAccounts) askedGuard = some state ∧
        serverStep noDigest state event = some next ∧ ¬ OwnerAdmits state event next := by
  refine ⟨_, .message 3 (.responseVisit2 .fileTransmission {
    taskId := 1, certificate := 0, errCode := Err.noError }) {}, _, rfl, rfl, fun owner => ?_⟩
  have added := owner .fileTransmission 1 2 ⟨_, rfl, rfl⟩
  obtain ⟨room, message, ambient, stands, isOwner⟩ := added (by
    rintro ⟨room, stands, held⟩
    cases stands
    contradiction)
  cases stands
  cases isOwner

end EasyViewer
