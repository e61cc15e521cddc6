/-
  File:      Openport/Lib/BigEndian.lean
  Subject:   Numbers as bytes, the most significant first.

  A library file: nothing here knows a particular program. `bytes k n` are the
  low `k` bytes of `n`, `value` the number a row of bytes stands for.
-/
import Mathlib.Data.List.Basic
import Mathlib.Algebra.GroupWithZero.Nat

namespace Lib.BigEndian

/-- The number a row of bytes stands for. -/
def value (bs : List UInt8) : Nat := bs.foldl (fun v b => v * 256 + b.toNat) 0

/-- The low `k` bytes of a number. -/
def bytes : Nat → Nat → List UInt8
  | 0, _ => []
  | k + 1, n => bytes k (n / 256) ++ [UInt8.ofNat n]

@[simp] theorem bytes_length : ∀ (k n : Nat), (bytes k n).length = k
  | 0, _ => rfl
  | k + 1, n => by
      show (bytes k (n / 256) ++ [UInt8.ofNat n]).length = k + 1
      rw [List.length_append, bytes_length k]
      rfl

theorem value_concat (bs : List UInt8) (b : UInt8) : value (bs ++ [b]) = value bs * 256 + b.toNat := by
  unfold value
  rw [List.foldl_append]
  rfl

/-- **The bytes of a number that fits them stand for it.** -/
theorem value_bytes {k n : Nat} (h : n < 256 ^ k) : value (bytes k n) = n := by
  induction k generalizing n with
  | zero =>
      have hn : n = 0 := Nat.lt_one_iff.mp h
      rw [hn]
      rfl
  | succ k ih =>
      have hk : n / 256 < 256 ^ k := by
        rw [Nat.pow_succ] at h
        exact Nat.div_lt_of_lt_mul (by rw [Nat.mul_comm]; exact h)
      show value (bytes k (n / 256) ++ [UInt8.ofNat n]) = n
      rw [value_concat, ih hk, UInt8.toNat_ofNat']
      omega

end Lib.BigEndian
