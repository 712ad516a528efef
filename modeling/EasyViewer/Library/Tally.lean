import Mathlib.Algebra.BigOperators.Group.Finset.Basic
import Mathlib.Algebra.Order.BigOperators.Group.Finset

/-!
Counting over finitely many threads. `tally weight places` adds up what each thread
weighs at its place; moving one thread changes its own summand only.
-/

namespace Threads

variable {Thread Place : Type} [Fintype Thread]

def tally (weight : Place → Nat) (places : Thread → Place) : Nat :=
  ∑ thread, weight (places thread)

theorem tally_update [DecidableEq Thread] (weight : Place → Nat) (places : Thread → Place)
    (thread : Thread) (place : Place) :
    tally weight (Function.update places thread place) + weight (places thread) =
      tally weight places + weight place := by
  have others : ∑ other ∈ Finset.univ.erase thread,
        weight (Function.update places thread place other) =
      ∑ other ∈ Finset.univ.erase thread, weight (places other) := by
    apply Finset.sum_congr rfl
    intro other member
    rw [Function.update_of_ne (Finset.ne_of_mem_erase member)]
  have moved := Finset.add_sum_erase Finset.univ
    (fun other => weight (Function.update places thread place other)) (Finset.mem_univ thread)
  have stayed := Finset.add_sum_erase Finset.univ (fun other => weight (places other))
    (Finset.mem_univ thread)
  simp only [Function.update_self] at moved
  simp only [tally]
  omega

theorem le_tally (weight : Place → Nat) (places : Thread → Place) (thread : Thread) :
    weight (places thread) ≤ tally weight places := by
  classical
  have split := Finset.add_sum_erase Finset.univ (fun other => weight (places other))
    (Finset.mem_univ thread)
  simp only [tally]
  omega

theorem add_le_tally (weight : Place → Nat) (places : Thread → Place) {first second : Thread}
    (different : first ≠ second) :
    weight (places first) + weight (places second) ≤ tally weight places := by
  classical
  have pair := Finset.sum_le_univ_sum_of_nonneg (s := {first, second})
    fun thread => Nat.zero_le (weight (places thread))
  rwa [Finset.sum_pair different] at pair

theorem tally_eq_zero {weight : Place → Nat} {places : Thread → Place}
    (nothing : ∀ thread, weight (places thread) = 0) : tally weight places = 0 :=
  Finset.sum_eq_zero fun thread _ => nothing thread

theorem tally_single {weight : Place → Nat} {places : Thread → Place} {thread : Thread}
    (nothing : ∀ other, other ≠ thread → weight (places other) = 0) :
    tally weight places = weight (places thread) :=
  Finset.sum_eq_single thread (fun other _ apart => nothing other apart)
    fun outside => absurd (Finset.mem_univ thread) outside

theorem tally_mono {weight heavier : Place → Nat} (below : ∀ place, weight place ≤ heavier place)
    (places : Thread → Place) : tally weight places ≤ tally heavier places :=
  Finset.sum_le_sum fun thread _ => below (places thread)

theorem tally_pos {weight : Place → Nat} {places : Thread → Place} :
    0 < tally weight places ↔ ∃ thread, 0 < weight (places thread) := by
  constructor
  · intro positive
    by_contra none
    simp only [not_exists, Nat.pos_iff_ne_zero, not_not] at none
    rw [tally_eq_zero none] at positive
    exact Nat.lt_irrefl 0 positive
  · rintro ⟨thread, positive⟩
    exact Nat.lt_of_lt_of_le positive (le_tally weight places thread)

end Threads
