import Mathlib.Logic.Basic

/-!
Runs of a transition system given by a partial step function: an event that is
not enabled has no successor. `Along` states a condition on every step of a run.
-/

namespace Transition

variable {State Event : Type} (step : State → Event → Option State)

def run : State → List Event → Option State
  | state, [] => some state
  | state, event :: events => (step state event).bind fun next => run next events

def Reachable (start state : State) : Prop := ∃ events, run step start events = some state

/-- Every event of the run meets `allowed` in the state it happens in. -/
def Along (allowed : State → Event → Prop) : State → List Event → Prop
  | _, [] => True
  | state, event :: events =>
      allowed state event ∧ ∀ next, step state event = some next → Along allowed next events

theorem run_cons {state final : State} {event : Event} {events : List Event} :
    run step state (event :: events) = some final ↔
      ∃ next, step state event = some next ∧ run step next events = some final := by
  simp only [run, Option.bind_eq_some_iff]

theorem run_append {state final : State} {first second : List Event} :
    run step state (first ++ second) = some final ↔
      ∃ middle, run step state first = some middle ∧ run step middle second = some final := by
  induction first generalizing state with
  | nil => simp [run]
  | cons event first ih =>
      rw [List.cons_append, run_cons]
      constructor
      · rintro ⟨next, stepped, rest⟩
        obtain ⟨middle, before, after⟩ := ih.mp rest
        exact ⟨middle, (run_cons step).mpr ⟨next, stepped, before⟩, after⟩
      · rintro ⟨middle, before, after⟩
        obtain ⟨next, stepped, rest⟩ := (run_cons step).mp before
        exact ⟨next, stepped, ih.mpr ⟨middle, rest, after⟩⟩

/-- What every allowed step keeps holds at the end of a run of allowed steps. -/
theorem Along.invariant {allowed : State → Event → Prop} {holds : State → Prop}
    (keeps : ∀ state event next, holds state → allowed state event →
      step state event = some next → holds next)
    {state final : State} {events : List Event} (along : Along step allowed state events)
    (start : holds state) (ran : run step state events = some final) : holds final := by
  induction events generalizing state with
  | nil =>
      simp only [run, Option.some.injEq] at ran
      exact ran ▸ start
  | cons event events ih =>
      obtain ⟨next, stepped, rest⟩ := (run_cons step).mp ran
      exact ih (along.2 next stepped) (keeps state event next start along.1 stepped) rest

theorem Along.of_forall {allowed : State → Event → Prop} (always : ∀ state event, allowed state event)
    (state : State) (events : List Event) : Along step allowed state events := by
  induction events generalizing state with
  | nil => trivial
  | cons event events ih => exact ⟨always state event, fun next _ => ih next⟩

theorem Along.mono {allowed wider : State → Event → Prop} (holds : State → Prop)
    (keeps : ∀ state event next, holds state → allowed state event →
      step state event = some next → holds next)
    (follows : ∀ state event, holds state → allowed state event → wider state event)
    {state : State} {events : List Event} (along : Along step allowed state events)
    (start : holds state) : Along step wider state events := by
  induction events generalizing state with
  | nil => trivial
  | cons event events ih =>
      refine ⟨follows state event start along.1, fun next stepped => ?_⟩
      exact ih (along.2 next stepped) (keeps state event next start along.1 stepped)

theorem Along.of_mem {allowed : Event → Prop} {events : List Event}
    (all : ∀ event ∈ events, allowed event) (state : State) :
    Along step (fun _ event => allowed event) state events := by
  induction events generalizing state with
  | nil => trivial
  | cons event events ih =>
      refine ⟨all event List.mem_cons_self, fun next _ => ih (fun other later => ?_) next⟩
      exact all other (List.mem_cons_of_mem event later)

def Throughout (holds : State → Prop) : State → List Event → Prop
  | state, [] => holds state
  | state, event :: events =>
      holds state ∧ ∀ next, step state event = some next → Throughout holds next events

instance Throughout.decidable (holds : State → Prop) [DecidablePred holds] (state : State)
    (events : List Event) : Decidable (Throughout step holds state events) :=
  match events with
  | [] => inferInstanceAs (Decidable (holds state))
  | event :: events =>
      match stepped : step state event with
      | none => decidable_of_iff (holds state)
          ⟨fun here => ⟨here, fun _ again => by rw [stepped] at again; contradiction⟩, And.left⟩
      | some next =>
          haveI := Throughout.decidable holds next events
          decidable_of_iff (holds state ∧ Throughout step holds next events)
            ⟨fun both => ⟨both.1, fun other again => by
              rw [stepped, Option.some.injEq] at again
              exact again ▸ both.2⟩,
            fun both => ⟨both.1, both.2 next stepped⟩⟩

/-- Every event that happens in the run meets `allowed`. -/
def Happening (allowed : State → Event → Prop) : State → List Event → Prop :=
  Along step fun state event => ∀ next, step state event = some next → allowed state event

theorem Happening.cons {allowed : State → Event → Prop} {state next : State} {event : Event}
    {events : List Event} (stepped : step state event = some next)
    (here : allowed state event) (rest : Happening step allowed next events) :
    Happening step allowed state (event :: events) := by
  refine ⟨fun _ _ => here, fun other again => ?_⟩
  rw [stepped, Option.some.injEq] at again
  exact again ▸ rest

theorem Along.and_iff {first second : State → Event → Prop} {state : State}
    {events : List Event} :
    Along step (fun state event => first state event ∧ second state event) state events ↔
      Along step first state events ∧ Along step second state events := by
  induction events generalizing state with
  | nil => exact ⟨fun _ => ⟨trivial, trivial⟩, fun _ => trivial⟩
  | cons event events ih =>
      constructor
      · rintro ⟨both, rest⟩
        exact ⟨⟨both.1, fun next stepped => (ih.mp (rest next stepped)).1⟩,
          both.2, fun next stepped => (ih.mp (rest next stepped)).2⟩
      · rintro ⟨⟨isFirst, restFirst⟩, isSecond, restSecond⟩
        exact ⟨⟨isFirst, isSecond⟩,
          fun next stepped => ih.mpr ⟨restFirst next stepped, restSecond next stepped⟩⟩

theorem Happening.mono {allowed wider : State → Event → Prop}
    (follows : ∀ state event next, step state event = some next → allowed state event →
      wider state event)
    {state : State} {events : List Event} (happening : Happening step allowed state events) :
    Happening step wider state events := by
  induction events generalizing state with
  | nil => trivial
  | cons event events ih =>
      exact ⟨fun next stepped => follows state event next stepped (happening.1 next stepped),
        fun next stepped => ih (happening.2 next stepped)⟩

theorem Happening.and_iff {first second : State → Event → Prop} {state : State}
    {events : List Event} :
    Happening step (fun state event => first state event ∧ second state event) state events ↔
      Happening step first state events ∧ Happening step second state events := by
  simp only [Happening]
  rw [← Along.and_iff]
  have same : (fun state event => ∀ next, step state event = some next →
      first state event ∧ second state event) =
      fun state event => (∀ next, step state event = some next → first state event) ∧
        ∀ next, step state event = some next → second state event := by
    funext state event
    simp only [forall_and]
  rw [same]

/-- The run comes to `state` through `before`, and from there to `next` by `event`. -/
def Happens (start : State) (events before : List Event) (state : State) (event : Event)
    (next : State) : Prop :=
  (∃ after, events = before ++ event :: after) ∧ run step start before = some state ∧
    step state event = some next

/-- If from a good state a step keeps a property just when it is allowed, then a run has the
property throughout just when all its steps are allowed. -/
theorem Throughout.iff_happening (good : State → Prop) {holds : State → Prop}
    {allowed : State → Event → Prop}
    (exact : ∀ state event next, good state → holds state → step state event = some next →
      good next ∧ (holds next ↔ allowed state event))
    {start : State} {events : List Event} (initially : good start) (first : holds start) :
    Throughout step holds start events ↔ Happening step allowed start events := by
  induction events generalizing start with
  | nil => exact ⟨fun _ => trivial, fun _ => first⟩
  | cons event events ih =>
      constructor
      · rintro ⟨_, rest⟩
        have goesOn : ∀ next, step start event = some next →
            good next ∧ holds next ∧ allowed start event := by
          intro next stepped
          obtain ⟨goodNext, keeps⟩ := exact start event next initially first stepped
          have holdsNext : holds next := by
            have later := rest next stepped
            cases events with
            | nil => exact later
            | cons _ _ => exact later.1
          exact ⟨goodNext, holdsNext, keeps.mp holdsNext⟩
        refine ⟨fun next stepped => (goesOn next stepped).2.2, fun next stepped => ?_⟩
        obtain ⟨goodNext, holdsNext, _⟩ := goesOn next stepped
        exact (ih goodNext holdsNext).mp (rest next stepped)
      · rintro ⟨allowedHere, rest⟩
        refine ⟨first, fun next stepped => ?_⟩
        obtain ⟨goodNext, keeps⟩ := exact start event next initially first stepped
        have holdsNext := keeps.mpr (allowedHere next stepped)
        exact (ih goodNext holdsNext).mpr (rest next stepped)

theorem Throughout.happening {holds : State → Prop} {allowed : State → Event → Prop}
    (follows : ∀ state event next, holds state → step state event = some next → allowed state event)
    {state : State} {events : List Event} (throughout : Throughout step holds state events) :
    Happening step allowed state events := by
  induction events generalizing state with
  | nil => trivial
  | cons event events ih =>
      exact ⟨fun next stepped => follows state event next throughout.1 stepped,
        fun next stepped => ih (throughout.2 next stepped)⟩

theorem Happening.congr (good : State → Prop) {allowed other : State → Event → Prop}
    (keeps : ∀ state event next, good state → step state event = some next → good next)
    (same : ∀ state event, good state → (allowed state event ↔ other state event))
    {state : State} (initially : good state) (events : List Event) :
    Happening step allowed state events ↔ Happening step other state events := by
  induction events generalizing state with
  | nil => exact Iff.rfl
  | cons event events ih =>
      refine and_congr ?_ (forall₂_congr fun next stepped =>
        ih (keeps state event next initially stepped))
      exact forall₂_congr fun _ _ => same state event initially

theorem Happening.throughout {holds : State → Prop} {allowed : State → Event → Prop}
    (keeps : ∀ state event next, holds state → allowed state event →
      step state event = some next → holds next)
    {state : State} {events : List Event} (happening : Happening step allowed state events)
    (start : holds state) : Throughout step holds state events := by
  induction events generalizing state with
  | nil => exact start
  | cons event events ih =>
      refine ⟨start, fun next stepped => ih (happening.2 next stepped) ?_⟩
      exact keeps state event next start (happening.1 next stepped) stepped

theorem Throughout.of_step {holds : State → Prop}
    (keeps : ∀ state event next, holds state → step state event = some next → holds next)
    {state : State} {events : List Event} (start : holds state) :
    Throughout step holds state events := by
  induction events generalizing state with
  | nil => exact start
  | cons event events ih =>
      exact ⟨start, fun next stepped => ih (keeps state event next start stepped)⟩

theorem Throughout.assuming {assumed holds : State → Prop}
    (keeps : ∀ state event next, assumed state → holds state → step state event = some next →
      holds next)
    {state : State} {events : List Event} (throughout : Throughout step assumed state events)
    (start : holds state) : Throughout step holds state events := by
  induction events generalizing state with
  | nil => exact start
  | cons event events ih =>
      refine ⟨start, fun next stepped => ih (throughout.2 next stepped) ?_⟩
      exact keeps state event next throughout.1 start stepped

theorem Throughout.mono {holds wider : State → Prop} (follows : ∀ state, holds state → wider state)
    {state : State} {events : List Event} (throughout : Throughout step holds state events) :
    Throughout step wider state events := by
  induction events generalizing state with
  | nil => exact follows state throughout
  | cons event events ih =>
      exact ⟨follows state throughout.1, fun next stepped => ih (throughout.2 next stepped)⟩

theorem Throughout.final {holds : State → Prop} {state final : State} {events : List Event}
    (throughout : Throughout step holds state events) (ran : run step state events = some final) :
    holds final := by
  induction events generalizing state with
  | nil =>
      simp only [run, Option.some.injEq] at ran
      exact ran ▸ throughout
  | cons event events ih =>
      obtain ⟨next, stepped, rest⟩ := (run_cons step).mp ran
      exact ih (throughout.2 next stepped) rest

theorem Reachable.invariant {holds : State → Prop}
    (keeps : ∀ state event next, holds state → step state event = some next → holds next)
    {start state : State} (initial : holds start) (reached : Reachable step start state) :
    holds state := by
  obtain ⟨events, ran⟩ := reached
  have along : Along step (fun _ _ => True) start events :=
    Along.of_forall step (fun _ _ => trivial) start events
  exact along.invariant step (fun state event next before _ => keeps state event next before)
    initial ran

theorem Reachable.trans {start middle final : State} (first : Reachable step start middle)
    (second : Reachable step middle final) : Reachable step start final := by
  obtain ⟨before, ranBefore⟩ := first
  obtain ⟨after, ranAfter⟩ := second
  exact ⟨before ++ after, (run_append step).mpr ⟨middle, ranBefore, ranAfter⟩⟩

theorem Reachable.single {start next : State} {event : Event}
    (stepped : step start event = some next) : Reachable step start next :=
  ⟨[event], (run_cons step).mpr ⟨next, stepped, rfl⟩⟩

end Transition
