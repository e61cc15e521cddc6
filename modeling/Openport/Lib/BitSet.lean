/-
  File:      Openport/Lib/BitSet.lean
  Subject:   A 32-bit word as a set of numbers below 32: its set bits.

  `has` is membership; every bitwise operation is read off through it, and two
  words with the same members are equal.
-/
import Mathlib.Data.Nat.Bitwise

namespace Lib.BitSet

/-- The word has this bit. -/
def has (w : UInt32) (i : Nat) : Bool := w.toNat.testBit i

/-- The word with this bit alone. -/
def bit (i : Nat) : UInt32 := 1 <<< UInt32.ofNat i

/-! ## 1. Membership -/

@[simp] theorem has_zero (i : Nat) : has 0 i = false := Nat.zero_testBit i

/-- No member is 32 or above. -/
theorem has_lt {w : UInt32} {i : Nat} (h : has w i = true) : i < 32 := by
  refine Nat.lt_of_not_le ?_
  intro hi
  have hlt : w.toNat < 2 ^ i :=
    Nat.lt_of_lt_of_le w.toNat_lt (Nat.pow_le_pow_right (by decide) hi)
  have hf : w.toNat.testBit i = false := Nat.testBit_lt_two_pow hlt
  rw [has, hf] at h
  cases h

theorem bit_toNat {i : Nat} (h : i < 32) : (bit i).toNat = 2 ^ i := by
  have hi : (UInt32.ofNat i).toNat = i := UInt32.toNat_ofNat_of_lt' (Nat.lt_trans h (by decide))
  have hlt : 2 ^ i < 2 ^ 32 := Nat.pow_lt_pow_right (by decide) h
  unfold bit
  rw [UInt32.toNat_shiftLeft, hi, Nat.mod_eq_of_lt h]
  show (1 <<< i) % 2 ^ 32 = 2 ^ i
  rw [Nat.one_shiftLeft, Nat.mod_eq_of_lt hlt]

theorem has_bit {i : Nat} (h : i < 32) (j : Nat) : has (bit i) j = decide (i = j) := by
  unfold has
  rw [bit_toNat h, Nat.testBit_two_pow]

@[simp] theorem has_and (v w : UInt32) (i : Nat) : has (v &&& w) i = (has v i && has w i) := by
  unfold has
  rw [UInt32.toNat_and, Nat.testBit_and]

@[simp] theorem has_or (v w : UInt32) (i : Nat) : has (v ||| w) i = (has v i || has w i) := by
  unfold has
  rw [UInt32.toNat_or, Nat.testBit_or]

theorem has_not (w : UInt32) (i : Nat) : has (~~~w) i = (decide (i < 32) && !has w i) := by
  unfold has
  rw [UInt32.toNat_not]
  have hs : UInt32.size - 1 - w.toNat = 2 ^ 32 - (w.toNat + 1) := by
    show 4294967296 - 1 - w.toNat = _
    omega
  rw [hs, Nat.testBit_two_pow_sub_succ w.toNat_lt]

/-- Words with the same members are equal. -/
theorem ext {v w : UInt32} (h : ∀ i, has v i = has w i) : v = w :=
  UInt32.toNat_inj.mp (Nat.eq_of_testBit_eq h)

/-! ## 2. One bit in, one bit out -/

/-- The word without a bit. -/
theorem has_erase {i : Nat} (h : i < 32) (w : UInt32) (j : Nat) :
    has (w &&& ~~~bit i) j = (has w j && decide (i ≠ j)) := by
  rw [has_and, has_not, has_bit h]
  cases hw : has w j with
  | false => rfl
  | true =>
      have hj : j < 32 := has_lt hw
      simp [hj]

/-- The word with a bit. -/
theorem has_insert {i : Nat} (h : i < 32) (w : UInt32) (j : Nat) :
    has (w ||| bit i) j = (has w j || decide (i = j)) := by
  rw [has_or, has_bit h]

/-- The test of a bit. -/
theorem and_bit_ne_zero {i : Nat} (h : i < 32) (w : UInt32) : w &&& bit i ≠ 0 ↔ has w i = true := by
  refine ⟨?_, ?_⟩
  · intro hne
    refine Classical.byContradiction fun hw => hne (ext fun j => ?_)
    rw [has_and, has_bit h, has_zero]
    by_cases e : i = j
    · subst e
      rw [Bool.eq_false_iff.mpr hw]
      rfl
    · rw [decide_eq_false e, Bool.and_false]
  · intro hw e
    have := congrArg (has · i) e
    simp only [has_and, has_bit h, has_zero, hw, decide_true, Bool.and_true] at this
    cases this

/-- The test for any other bit. -/
theorem and_not_bit_eq_zero {i : Nat} (h : i < 32) (w : UInt32) :
    w &&& ~~~bit i = 0 ↔ ∀ j, has w j = true → j = i := by
  refine ⟨fun e j hj => ?_, fun hall => ext fun j => ?_⟩
  · have := congrArg (has · j) e
    simp only [has_erase h, hj, has_zero, Bool.true_and, decide_eq_false_iff_not, ne_eq,
      Decidable.not_not] at this
    exact this.symm
  · rw [has_erase h, has_zero]
    cases hj : has w j with
    | false => rfl
    | true => simp [hall j hj]

end Lib.BitSet
