import Mathlib.Order.Monotone.Defs
import Mathlib.Data.List.Basic

/-!
Counters over windows of time that start over at the first event of a new window. When
windows do not go back such a counter is the number of events in the last one's window.
-/

namespace WindowCount

variable {Time Window : Type} [DecidableEq Window]

/-- How many of the times fall into the window of `last`. -/
def inWindow (window : Time → Window) (last : Time) (times : List Time) : Nat :=
  times.countP fun time => window time = window last

theorem inWindow_cons (window : Time → Window) (time : Time) (times : List Time) :
    inWindow window time (time :: times) = inWindow window time times + 1 := by
  simp [inWindow]

theorem inWindow_le_cons (window : Time → Window) (last time : Time) (times : List Time) :
    inWindow window last times ≤ inWindow window last (time :: times) := by
  simp [inWindow, List.countP_cons]

theorem inWindow_congr {window : Time → Window} {first second : Time}
    (same : window first = window second) (times : List Time) :
    inWindow window first times = inWindow window second times := by
  simp only [inWindow, same]

theorem inWindow_new [Preorder Time] [PartialOrder Window] {window : Time → Window}
    (monotone : Monotone window) {last time : Time} {times : List Time}
    (latest : ∀ earlier ∈ times, earlier ≤ last) (after : last ≤ time)
    (moved : window last ≠ window time) : inWindow window time times = 0 := by
  rw [inWindow, List.countP_eq_zero]
  intro earlier member same
  rw [decide_eq_true_eq] at same
  have below : window time ≤ window last := same ▸ monotone (latest earlier member)
  exact moved (le_antisymm (monotone after) below)

theorem inWindow_le {Wide : Type} [DecidableEq Wide] {window : Time → Window} {wide : Time → Wide}
    (inside : ∀ first second, window first = window second → wide first = wide second)
    (last : Time) (times : List Time) :
    inWindow window last times ≤ inWindow wide last times := by
  refine List.countP_mono_left fun time _ same => ?_
  rw [decide_eq_true_eq] at same ⊢
  exact inside time last same

/-- Times in falling order from one in the window of `last` up to `last` are all in it. -/
theorem lt_inWindow [Preorder Time] [PartialOrder Window] {window : Time → Window}
    (monotone : Monotone window) {last : Time} {times : List Time}
    (sorted : times.Pairwise fun recent earlier => earlier ≤ recent)
    (latest : ∀ time ∈ times, time ≤ last) {position : Nat} {time : Time}
    (found : times[position]? = some time) (same : window time = window last) :
    position < inWindow window last times := by
  obtain ⟨bound, rfl⟩ := List.getElem?_eq_some_iff.mp found
  have inside : ∀ recent ∈ times.take (position + 1), decide (window recent = window last) := by
    intro recent member
    obtain ⟨index, below, rfl⟩ := List.mem_take_iff_getElem.mp member
    have small : index < times.length := by omega
    have upper := monotone (latest _ (List.getElem_mem small))
    have lower : window times[position] ≤ window times[index] := by
      rcases Nat.lt_or_eq_of_le (by omega : index ≤ position) with before | rfl
      · exact monotone (List.pairwise_iff_getElem.mp sorted index position small bound before)
      · exact le_rfl
    exact decide_eq_true (le_antisymm upper (same ▸ lower))
  have taken := List.countP_eq_length.mpr inside
  have part : (times.take (position + 1)).countP (fun time => window time = window last) ≤
      inWindow window last times := (List.take_sublist ..).countP_le
  rw [taken, List.length_take_of_le (by omega)] at part
  omega

end WindowCount
