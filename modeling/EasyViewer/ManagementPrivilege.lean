import EasyViewer.Visits

/-!
Where the manager's role comes from. `RequestLogin` is the only place that sets a role,
its other branch never sets this one, and every management handler asks for exactly it.
-/

namespace EasyViewer

section

variable (md5 : String → String)

/-- A login for the manager's role that the state accepts. -/
def AdminLogin (state : ServerState) (con : ConnectionId) (event : Event) : Prop :=
  ∃ request ambient connection info, event = .message con (.login request) ambient ∧
    request.role = Role.manager ∧
    state.accountManager.checkAdminPassword request.password = true ∧
    state.connections con = some connection ∧
    loginAttempt md5 state connection request ambient = some info

/-- Such a login is among the events of the run. -/
def LoggedInAsAdmin (start : ServerState) (events : List Event) (con : ConnectionId) : Prop :=
  ∃ earlier event later state, events = earlier ++ event :: later ∧
    Transition.run (serverStep md5) start earlier = some state ∧ AdminLogin md5 state con event

variable {md5}

theorem loginAttempt_manager {state : ServerState} {connection : Connection}
    {request : LoginRequest} {ambient : Ambient} {info : Account}
    (attempt : loginAttempt md5 state connection request ambient = some info)
    (asManager : request.role = Role.manager) :
    state.accountManager.checkAdminPassword request.password = true := by
  simp only [loginAttempt] at attempt
  split at attempt
  · contradiction
  · simp only [checkLogin] at attempt
    split at attempt
    · contradiction
    · split at attempt
      · contradiction
      · split at attempt
        · rename_i checked
          exact checked
        · contradiction

theorem LoggedInAsAdmin.snoc {start : ServerState} {events : List Event} {con : ConnectionId}
    (loggedIn : LoggedInAsAdmin md5 start events con) (event : Event) :
    LoggedInAsAdmin md5 start (events ++ [event]) con := by
  obtain ⟨earlier, login, later, state, rfl, ran, admin⟩ := loggedIn
  exact ⟨earlier, login, later ++ [event], state, by simp, ran, admin⟩

theorem role_after_step {state next : ServerState} {event : Event} {con : ConnectionId}
    {connection : Connection} (stepped : serverStep md5 state event = some next)
    (known : next.connections con = some connection) (isManager : connection.role = Role.manager) :
    (∃ before, state.connections con = some before ∧ before.role = Role.manager) ∨
      AdminLogin md5 state con event := by
  rcases serverStep_connections stepped con with
    unchanged | ⟨_, _, result⟩ | ⟨isLogin, registered, attempt, _, result⟩ |
    ⟨_, registered, _, _, result⟩
  · exact Or.inl ⟨connection, unchanged ▸ known, isManager⟩
  · rw [result, Option.some.injEq] at known
    subst known
    have neverSo : (0 : UInt32) ≠ Role.manager := by decide
    exact absurd isManager neverSo
  · rw [result, Option.some.injEq] at known
    subst known
    exact Or.inr ⟨_, _, _, _, isLogin, isManager, loginAttempt_manager attempt isManager,
      registered, attempt⟩
  · rw [result, Option.some.injEq] at known
    subst known
    exact Or.inl ⟨_, registered, isManager⟩

/-- In every run, a connection with the role that the management handlers ask for has logged
in with the administrator's password. -/
theorem manager_logged_in {accountManager : AccountManager} {events : List Event}
    {state : ServerState}
    (ran : Transition.run (serverStep md5) (initialServer accountManager) events = some state)
    {con : ConnectionId} {connection : Connection}
    (known : state.connections con = some connection) (isManager : connection.role = Role.manager) :
    LoggedInAsAdmin md5 (initialServer accountManager) events con := by
  induction events using List.reverseRecOn generalizing state connection with
  | nil =>
      simp only [Transition.run, Option.some.injEq] at ran
      subst ran
      contradiction
  | append_singleton events event ih =>
      obtain ⟨middle, before, after⟩ := (Transition.run_append _).mp ran
      obtain ⟨next, stepped, done⟩ := (Transition.run_cons _).mp after
      simp only [Transition.run, Option.some.injEq] at done
      subst done
      rcases role_after_step stepped known isManager with ⟨earlier, registered, wasManager⟩ | admin
      · exact (ih before registered wasManager).snoc event
      · exact ⟨events, event, [], middle, rfl, before, admin⟩

/-- In every run, on either server: a management request does nothing but disconnect its
sender, unless the sender has logged in with the administrator's password, and no other
login gives a connection the role that the handlers ask for. -/
theorem management_needs_admin (md5 : String → String) (accountManager : AccountManager)
    (events : List Event) (state : ServerState)
    (ran : Transition.run (serverStep md5) (initialServer accountManager) events = some state)
    (con : ConnectionId) :
    (∀ connection, state.connections con = some connection →
      connection.role = Role.flagManager →
        LoggedInAsAdmin md5 (initialServer accountManager) events con) ∧
      ∀ request ambient next,
        serverStep md5 state (.message con (.management request) ambient) = some next →
          LoggedInAsAdmin md5 (initialServer accountManager) events con ∨
            next = { state with outputs := [] }.disconnect con := by
  have privileged : ∀ connection, state.connections con = some connection →
      connection.role = Role.flagManager →
        LoggedInAsAdmin md5 (initialServer accountManager) events con :=
    fun connection known isManager => manager_logged_in ran known isManager
  refine ⟨privileged, fun request ambient next stepped => ?_⟩
  obtain ⟨_, happened⟩ := serverStep_some.mp stepped
  obtain ⟨connection, known, _, _, rfl⟩ := eventStep_message happened
  by_cases isManager : connection.role = Role.flagManager
  · exact Or.inl (privileged connection known isManager)
  · right
    simp only [handle, handleManagement]
    rw [if_pos isManager]

def adminAndVisitor : List Event := [
  .connect 1 .management "10.0.0.1",
  .connect 2 .management "10.0.0.2",
  .message 1 (.login {
    account := "", password := "admin", role := Role.manager, secretKey := "k" }) {},
  .message 2 (.login {
    account := "visitor", password := "", role := Role.screenVisitor, secretKey := "k" }) {}]

theorem management_needs_admin_here :
    LoggedInAsAdmin noDigest (initialServer twoAccounts) adminAndVisitor 1 :=
  (management_needs_admin noDigest twoAccounts adminAndVisitor _ rfl 1).1 _ rfl rfl

end

end EasyViewer
