import Mathlib.Data.List.Basic

/-!
Machines that answer each operation, run on a list of operations. One machine
simulates another through a view of its states when single steps agree.
-/

namespace Simulation

variable {State Concrete Abstract Operation Answer : Type}

def run (step : State → Operation → Answer × State) : State → List Operation → List Answer × State
  | state, [] => ([], state)
  | state, operation :: operations =>
      let (answer, next) := step state operation
      let (answers, final) := run step next operations
      (answer :: answers, final)

/-- When every step answers as the abstract one does on the view, so does every run. -/
theorem run_view {concrete : Concrete → Operation → Answer × Concrete}
    {abstract : Abstract → Operation → Answer × Abstract} (view : Concrete → Abstract)
    (agrees : ∀ state operation, abstract (view state) operation =
      ((concrete state operation).1, view (concrete state operation).2))
    (state : Concrete) (operations : List Operation) :
    run abstract (view state) operations =
      ((run concrete state operations).1, view (run concrete state operations).2) := by
  induction operations generalizing state with
  | nil => rfl
  | cons operation operations ih => simp only [run, agrees, ih]

end Simulation
