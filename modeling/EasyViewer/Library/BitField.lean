import Mathlib.Algebra.Ring.Nat

/-!
Words built up from fields: `push` moves the word up by the width of a field and
stores the field in the bits that come free.
-/

namespace BitField

def push (word width field : Nat) : Nat := word <<< width ||| field

theorem push_eq {width field : Nat} (word : Nat) (fits : field < 2 ^ width) :
    push word width field = word * 2 ^ width + field := by
  rw [push, ← Nat.shiftLeft_add_eq_or_of_lt fits, Nat.shiftLeft_eq]

theorem push_inj {first second width left right : Nat} (leftFits : left < 2 ^ width)
    (rightFits : right < 2 ^ width) :
    push first width left = push second width right ↔ first = second ∧ left = right := by
  rw [push_eq first leftFits, push_eq second rightFits]
  constructor
  · intro same
    have words : first = second := by
      have quotients := congrArg (· / 2 ^ width) same
      simpa [Nat.add_comm, Nat.add_mul_div_right, Nat.two_pow_pos,
        Nat.div_eq_of_lt, leftFits, rightFits] using quotients
    subst words
    exact ⟨rfl, Nat.add_left_cancel same⟩
  · rintro ⟨rfl, rfl⟩
    rfl

theorem push_pos {word width field : Nat} (nonzero : 0 < word ∨ 0 < field) :
    0 < push word width field := by
  rcases nonzero with wordNonzero | fieldNonzero
  · have moved : 0 < word <<< width := by
      rw [Nat.shiftLeft_eq]
      exact Nat.mul_pos wordNonzero (Nat.two_pow_pos width)
    exact Nat.lt_of_lt_of_le moved Nat.left_le_or
  · exact Nat.lt_of_lt_of_le fieldNonzero Nat.right_le_or

end BitField
