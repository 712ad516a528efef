import Mathlib.Algebra.BigOperators.Group.List.Basic
import Mathlib.Algebra.Order.Monoid.Defs
import Mathlib.Order.Lattice

/-!
A virtual clock gives every job a tag: it goes on by the job's cost, and it is never
behind the time from which the job may count. The tag bounds the cost of all jobs since.
-/

namespace VirtualClock

variable {Time : Type} [LinearOrder Time] [AddCommMonoid Time]

structure Job (Time : Type) where
  since : Time
  cost : Time

def Job.advance (clock : Time) (job : Job Time) : Time := max job.since (clock + job.cost)

/-- The tag of the last of the jobs. -/
def tag (start : Time) (jobs : List (Job Time)) : Time := jobs.foldl Job.advance start

def cost (jobs : List (Job Time)) : Time := (jobs.map Job.cost).sum

@[simp] theorem tag_append (start : Time) (first second : List (Job Time)) :
    tag start (first ++ second) = tag (tag start first) second :=
  List.foldl_append

variable [IsOrderedAddMonoid Time]

theorem cost_le_tag (start : Time) (jobs : List (Job Time)) :
    start + cost jobs ≤ tag start jobs := by
  induction jobs generalizing start with
  | nil => simp [cost, tag]
  | cons job rest ih =>
      have later := ih (job.advance start)
      have sooner : start + job.cost ≤ job.advance start := le_max_right _ _
      calc start + cost (job :: rest) = start + job.cost + cost rest := by
            simp [cost, add_assoc]
        _ ≤ job.advance start + cost rest := by gcongr
        _ ≤ tag start (job :: rest) := later

/-- The jobs after one that may count from some time on cost no more than the tag has gone
on since then. -/
theorem since_add_cost_le_tag (start : Time) (before : List (Job Time)) (job : Job Time)
    (after : List (Job Time)) :
    job.since + cost after ≤ tag start (before ++ job :: after) := by
  have later := cost_le_tag (job.advance (tag start before)) after
  have sooner : job.since ≤ job.advance (tag start before) := le_max_left _ _
  rw [tag_append]
  calc job.since + cost after ≤ job.advance (tag start before) + cost after := by gcongr
    _ ≤ tag (tag start before) (job :: after) := later

end VirtualClock
