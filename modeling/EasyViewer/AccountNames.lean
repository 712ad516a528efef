import EasyViewer.AccountManager
import EasyViewer.Library.Run

/-!
Names in the table `user`: its schema has no key, `addAccount` asks for no earlier row
of the name, and every other member finds an account by its name. The name of a row is
what `c_str()` left of the argument.
-/

namespace EasyViewer

inductive AccountCall where
  | addAccount (account password : String) (id : UserId)
  | deleteAccount (account : String)
  | updatePassword (account password : String)
  | enableAccount (account : String)
  | disableAccount (account : String)
  deriving DecidableEq, Repr

section

variable (md5 : String → String)

def AccountManager.call (manager : AccountManager) (request : AccountCall) (executed : Bool) :
    AccountManager :=
  match request with
  | .addAccount account password id => (manager.addAccount md5 account password id executed).2
  | .deleteAccount account => (manager.deleteAccount account executed).2
  | .updatePassword account password => (manager.updatePassword md5 account password executed).2
  | .enableAccount account => (manager.enableAccount account executed).2
  | .disableAccount account => (manager.disableAccount account executed).2

def accountStep (manager : AccountManager) (event : AccountCall × Bool) : Option AccountManager :=
  some (manager.call md5 event.1 event.2)

end

def AccountManager.named (manager : AccountManager) (name : String) : List Account :=
  manager.rows.filter fun row => row.account = name

def UniqueNames (manager : AccountManager) : Prop :=
  ∀ name, (manager.named name).length ≤ 1

/-- An account that is really added has, up to its first NUL, a name that no row has. -/
def AddsNewName (manager : AccountManager) (event : AccountCall × Bool) : Prop :=
  match event.1 with
  | .addAccount account password id =>
      AccountManager.validText account = true → AccountManager.validText password = true →
        id ≠ 0 → event.2 = true → manager.Absent (cStr account)
  | _ => True

namespace AccountManager

theorem absent_iff {manager : AccountManager} {name : String} :
    manager.Absent name ↔ manager.named name = [] := by
  simp [Absent, named, List.filter_eq_nil_iff]

theorem named_map {manager next : AccountManager} {change : Account → Account}
    (rows : next.rows = manager.rows.map change)
    (keeps : ∀ row, (change row).account = row.account) (account : String) :
    (next.named account).length = (manager.named account).length := by
  simp only [named, rows, List.filter_map, List.length_map, Function.comp_def, keeps]

theorem named_setAccountDisabled (manager : AccountManager) (account other : String)
    (disabled executed : Bool) :
    ((manager.setAccountDisabled account disabled executed).2.named other).length =
      (manager.named other).length := by
  rcases setAccountDisabled_rows (Prod.eta _).symm with ⟨rows, _⟩ | ⟨_, rows⟩
  · rw [named, rows, named]
  · refine named_map rows (fun row => ?_) other
    split <;> rfl

theorem named_updatePassword (md5 : String → String) (manager : AccountManager)
    (account password other : String) (executed : Bool) :
    ((manager.updatePassword md5 account password executed).2.named other).length =
      (manager.named other).length := by
  simp only [updatePassword]
  split
  · rfl
  · refine named_map rfl (fun row => ?_) other
    split <;> rfl

theorem named_deleteAccount (manager : AccountManager) (account other : String)
    (executed : Bool) :
    ((manager.deleteAccount account executed).2.named other).length ≤
      (manager.named other).length := by
  simp only [deleteAccount]
  split
  · exact Nat.le_refl _
  · exact (List.Sublist.filter _ List.filter_sublist).length_le

theorem addAccount_refused {md5 : String → String} {manager : AccountManager}
    {account password : String} {id : UserId} {executed : Bool}
    (refused : ¬ (validText account = true ∧ validText password = true ∧ id ≠ 0 ∧
      executed = true)) :
    (manager.addAccount md5 account password id executed).2 = manager := by
  simp only [addAccount]
  split
  · rfl
  · split
    · rfl
    · split
      · rfl
      · rename_i valid nonzero carriedOut
        exact absurd ⟨by simp_all, by simp_all, nonzero, by simp_all⟩ refused

theorem addAccount_rows {md5 : String → String} {manager : AccountManager}
    {account password : String} {id : UserId} {executed : Bool}
    (valid : validText account = true) (validPassword : validText password = true)
    (nonzero : id ≠ 0) (carriedOut : executed = true) :
    (manager.addAccount md5 account password id executed).2.rows = manager.rows ++ [{
      id := id, account := cStr account
      password := cStr (encodePassword md5 account password) }] := by
  simp [addAccount, valid, validPassword, nonzero, carriedOut]

end AccountManager

theorem uniqueNames_append_iff {manager next : AccountManager} {row : Account}
    (unique : UniqueNames manager) (rows : next.rows = manager.rows ++ [row]) :
    UniqueNames next ↔ manager.Absent row.account := by
  have grown : ∀ account, (next.named account).length =
      (manager.named account).length + if row.account = account then 1 else 0 := by
    intro account
    simp only [AccountManager.named, rows, List.filter_append, List.length_append]
    by_cases same : row.account = account <;> simp [same]
  rw [AccountManager.absent_iff]
  constructor
  · intro uniqueNext
    have one := uniqueNext row.account
    rw [grown, if_pos rfl] at one
    exact List.length_eq_zero_iff.mp (by omega)
  · intro fresh account
    rw [grown]
    split
    · rename_i same
      rw [← same, fresh]
      exact Nat.le_refl _
    · exact unique account

theorem uniqueNames_step_iff {md5 : String → String} {manager next : AccountManager}
    {event : AccountCall × Bool} (unique : UniqueNames manager)
    (stepped : accountStep md5 manager event = some next) :
    UniqueNames next ↔ AddsNewName manager event := by
  obtain ⟨request, executed⟩ := event
  simp only [accountStep, Option.some.injEq] at stepped
  subst stepped
  cases request with
  | addAccount account password id =>
      simp only [AccountManager.call, AddsNewName]
      by_cases accepted : AccountManager.validText account = true ∧
          AccountManager.validText password = true ∧ id ≠ 0 ∧ executed = true
      · obtain ⟨valid, validPassword, nonzero, carriedOut⟩ := accepted
        rw [uniqueNames_append_iff unique
          (AccountManager.addAccount_rows valid validPassword nonzero carriedOut)]
        exact ⟨fun absent _ _ _ _ => absent,
          fun absent => absent valid validPassword nonzero carriedOut⟩
      · rw [AccountManager.addAccount_refused accepted]
        refine ⟨fun _ valid validPassword nonzero carriedOut => ?_, fun _ => unique⟩
        exact absurd ⟨valid, validPassword, nonzero, carriedOut⟩ accepted
  | deleteAccount account =>
      refine ⟨fun _ => trivial, fun _ other => ?_⟩
      exact Nat.le_trans (AccountManager.named_deleteAccount manager account other executed)
        (unique other)
  | updatePassword account password =>
      refine ⟨fun _ => trivial, fun _ other => ?_⟩
      rw [AccountManager.call, AccountManager.named_updatePassword]
      exact unique other
  | enableAccount account =>
      refine ⟨fun _ => trivial, fun _ other => ?_⟩
      rw [AccountManager.call, AccountManager.enableAccount,
        AccountManager.named_setAccountDisabled]
      exact unique other
  | disableAccount account =>
      refine ⟨fun _ => trivial, fun _ other => ?_⟩
      rw [AccountManager.call, AccountManager.disableAccount,
        AccountManager.named_setAccountDisabled]
      exact unique other

/-- From the table that the server creates, names stay unique just when no account is added
that a row has the name of already. -/
theorem uniqueNames_iff (md5 : String → String) (events : List (AccountCall × Bool)) :
    Transition.Throughout (accountStep md5) UniqueNames {} events ↔
      Transition.Happening (accountStep md5) AddsNewName {} events := by
  refine Transition.Throughout.iff_happening (accountStep md5) (fun _ => True) ?_ trivial ?_
  · intro manager event next _ unique stepped
    exact ⟨trivial, uniqueNames_step_iff unique stepped⟩
  · intro account
    exact Nat.zero_le _

/-- The same account is added twice under two ids. -/
theorem doubleAdd_repeatsName : ¬ Transition.Throughout (accountStep id) UniqueNames {}
    [(.addAccount "a" "p" 1, true), (.addAccount "a" "p" 2, true)] := by
  intro unique
  have last := (unique.2 _ rfl).2 _ rfl "a"
  revert last
  decide

end EasyViewer
