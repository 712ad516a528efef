import Mathlib.Algebra.Group.Nat.Defs
import Mathlib.Data.Nat.Log
import Mathlib.Data.Nat.Size

/-!
Rounding up to a power of two by smearing the highest set bit of a word over all
lower ones, in rounds that double the distance each time.
-/

namespace PowerOfTwo

/-- Or the word with itself moved down by `1`, `2`, `4`, …, `2 ^ (rounds - 1)`. -/
def smear : Nat → Nat → Nat
  | 0, word => word
  | rounds + 1, word => smear rounds word ||| smear rounds word >>> 2 ^ rounds

theorem testBit_smear (rounds word index : Nat) :
    (smear rounds word).testBit index = true ↔
      ∃ above < 2 ^ rounds, word.testBit (index + above) = true := by
  induction rounds generalizing index with
  | zero => simp [smear]
  | succ rounds ih =>
      simp only [smear, Nat.testBit_or, Nat.testBit_shiftRight, Bool.or_eq_true, ih]
      constructor
      · rintro (⟨above, bound, bit⟩ | ⟨above, bound, bit⟩)
        · exact ⟨above, by omega, bit⟩
        · refine ⟨2 ^ rounds + above, by omega, ?_⟩
          rw [← bit]
          congr 1
          omega
      · rintro ⟨above, bound, bit⟩
        by_cases near : above < 2 ^ rounds
        · exact Or.inl ⟨above, near, bit⟩
        · refine Or.inr ⟨above - 2 ^ rounds, by omega, ?_⟩
          rw [← bit]
          congr 1
          omega

theorem smear_eq {rounds word : Nat} (fits : word < 2 ^ 2 ^ rounds) :
    smear rounds word = 2 ^ word.size - 1 := by
  refine Nat.eq_of_testBit_eq fun index => ?_
  rw [Bool.eq_iff_iff, testBit_smear, Nat.testBit_two_pow_sub_one, decide_eq_true_iff]
  constructor
  · rintro ⟨above, _, bit⟩
    have reached : index + above < word.size := Nat.lt_size.mpr (Nat.ge_two_pow_of_testBit bit)
    omega
  · intro below
    have short : word.size ≤ 2 ^ rounds := Nat.size_le.mpr fits
    refine ⟨word.size - 1 - index, by omega, ?_⟩
    have top : index + (word.size - 1 - index) = word.size - 1 := by omega
    have reaches : 2 ^ (word.size - 1) ≤ word := Nat.lt_size.mp (by omega)
    have within : word < 2 ^ (word.size - 1 + 1) := by
      rw [Nat.sub_add_cancel (by omega)]
      exact Nat.lt_size_self word
    rw [top]
    exact Nat.testBit_of_two_pow_le_and_two_pow_add_one_gt reaches within

theorem le_smear (rounds word : Nat) : word ≤ smear rounds word := by
  induction rounds with
  | zero => exact le_rfl
  | succ rounds ih => exact ih.trans Nat.left_le_or

/-- The word itself when it is half of the smeared word's successor, else that successor. -/
def roundUp (rounds word : Nat) : Nat :=
  if (smear rounds word + 1) >>> 1 = word then word else smear rounds word + 1

theorem le_roundUp (rounds word : Nat) : word ≤ roundUp rounds word := by
  have above := le_smear rounds word
  simp only [roundUp]
  split <;> omega

theorem size_pred_pow {word : Nat} (positive : 0 < word) :
    2 ^ word.size = 2 ^ (word.size - 1) * 2 ∧ 2 ^ (word.size - 1) ≤ word := by
  have sized : 0 < word.size := Nat.size_pos.mpr positive
  refine ⟨?_, Nat.lt_size.mp (by omega)⟩
  rw [← Nat.pow_succ, Nat.succ_eq_add_one, Nat.sub_add_cancel sized]

theorem roundUp_eq {rounds word : Nat} (positive : 0 < word) (fits : word < 2 ^ 2 ^ rounds) :
    roundUp rounds word = 2 ^ Nat.clog 2 word := by
  obtain ⟨double, reaches⟩ := size_pred_pow positive
  have below := Nat.lt_size_self word
  have one : 1 ≤ 2 ^ word.size := Nat.one_le_two_pow
  rw [roundUp, smear_eq fits, Nat.sub_add_cancel one, Nat.shiftRight_one, double,
    Nat.mul_div_cancel _ (by omega)]
  split
  · rename_i exactPower
    rw [← exactPower, Nat.clog_pow 2 _ (by omega)]
  · rename_i inexact
    have high : word.size - 1 < Nat.clog 2 word :=
      (Nat.lt_clog_iff_pow_lt (by omega)).mpr (by omega)
    have low : Nat.clog 2 word ≤ word.size := (Nat.clog_le_iff_le_pow (by omega)).mpr below.le
    rw [← double, show Nat.clog 2 word = word.size by omega]

end PowerOfTwo
