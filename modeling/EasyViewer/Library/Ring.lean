import Mathlib.Logic.Function.Basic

/-!
Rings of numbered nodes, each linked to its neighbours, that are written at the current node or at
the one after it. Such a ring shows the newest entries of a log that forgets nothing.
-/

namespace Ring

def next (size index : Nat) : Nat := if index + 1 = size then 0 else index + 1

def previous (size index : Nat) : Nat := if index = 0 then size - 1 else index - 1

/-- The node so many links before this one. -/
def back (size index : Nat) : Nat → Nat
  | 0 => index
  | count + 1 => previous size (back size index count)

variable {size index : Nat}

theorem next_lt (inside : index < size) : next size index < size := by
  simp only [next]
  split <;> omega

theorem back_eq (inside : index < size) {count : Nat} (few : count ≤ size) :
    back size index count = if count ≤ index then index - count else index + size - count := by
  induction count with
  | zero => simp [back]
  | succ count ih =>
      rw [back, ih (by omega)]
      simp only [previous]
      split <;> split <;> split <;> omega

theorem back_self (inside : index < size) : back size index size = index := by
  rw [back_eq inside (Nat.le_refl size), if_neg (by omega)]
  omega

theorem back_ne (inside : index < size) {count : Nat} (some : 0 < count) (few : count < size) :
    back size index count ≠ index := by
  rw [back_eq inside (by omega)]
  split <;> omega

theorem back_next (size index count : Nat) :
    back size (next size index) (count + 1) = back size index count := by
  induction count with
  | zero =>
      simp only [back, previous, next]
      split <;> split <;> omega
  | succ count ih => rw [back, ih, back]

variable {Node : Type} {items : Nat → Node} {blank node : Node} {log : List Node}

/-- Back from the current node stand the log's newest entries, then blanks. -/
def Shows (size : Nat) (items : Nat → Node) (current : Nat) (blank : Node) (log : List Node) :
    Prop :=
  ∀ count, count < size → items (back size current count) = log.getD count blank

theorem Shows.rewrite {current : Nat} {old : Node} (inside : current < size)
    (shown : Shows size items current blank (old :: log)) :
    Shows size (Function.update items current node) current blank (node :: log) := by
  intro count few
  cases count with
  | zero => exact Function.update_self _ _ _
  | succ count =>
      rw [Function.update_of_ne (back_ne inside (by omega) few)]
      exact shown (count + 1) few

theorem Shows.push {current : Nat} (inside : current < size)
    (shown : Shows size items current blank log) :
    Shows size (Function.update items (next size current) node) (next size current) blank
      (node :: log) := by
  intro count few
  cases count with
  | zero => exact Function.update_self _ _ _
  | succ count =>
      rw [Function.update_of_ne (back_ne (next_lt inside) (by omega) few), back_next]
      exact shown count (by omega)

end Ring
