/-
  File:      Openport/Lib/Decimal.lean
  Subject:   Decimal numerals as byte strings: how a number is written, and what
             a run of digits read from the left is worth.

  A library file: nothing here knows a particular program. `decimal` is what
  `%u` prints; `value` is the number a digit run denotes, and `satValue` the
  same number held at a ceiling after every digit, which is the same as
  holding it there once (`satValue_eq`).
-/
import Mathlib.Data.Nat.Digits.Lemmas

namespace Lib.Decimal

/-- An ASCII digit. -/
def isDigit (c : UInt8) : Bool := decide (48 ≤ c ∧ c ≤ 57)

/-- What an ASCII digit is worth. -/
def digitVal (c : UInt8) : Nat := c.toNat - 48

/-- The ASCII digit of a number below ten. -/
def digitByte (d : Nat) : UInt8 := UInt8.ofNat (48 + d)

/-- The decimal numeral of `n`, most significant digit first, no leading zero. -/
def decimal (n : Nat) : List UInt8 :=
  if n = 0 then [48] else (Nat.digits 10 n).reverse.map digitByte

/-- The number a run of digits denotes. -/
def value (ds : List UInt8) : Nat := ds.foldl (fun v c => v * 10 + digitVal c) 0

/-- The number a run of digits denotes when every step is held at `cap`, from `v` on. -/
def satValue (cap v : Nat) (ds : List UInt8) : Nat :=
  ds.foldl (fun v c => min (v * 10 + digitVal c) cap) v

example : decimal 4294967295 = [52, 50, 57, 52, 57, 54, 55, 50, 57, 53] := by decide

/-! ## 1. Digits -/

theorem isDigit_iff (c : UInt8) : isDigit c = true ↔ 48 ≤ c.toNat ∧ c.toNat ≤ 57 := by
  unfold isDigit
  rw [decide_eq_true_eq, UInt8.le_iff_toNat_le, UInt8.le_iff_toNat_le]
  rfl

theorem digitByte_toNat {d : Nat} (h : d < 10) : (digitByte d).toNat = 48 + d := by
  unfold digitByte
  rw [UInt8.toNat_ofNat']
  omega

theorem isDigit_digitByte {d : Nat} (h : d < 10) : isDigit (digitByte d) = true := by
  rw [isDigit_iff, digitByte_toNat h]
  omega

theorem digitVal_digitByte {d : Nat} (h : d < 10) : digitVal (digitByte d) = d := by
  unfold digitVal
  rw [digitByte_toNat h]
  omega

/-! ## 2. The numeral of a number -/

theorem decimal_ne_nil (n : Nat) : decimal n ≠ [] := by
  unfold decimal
  split
  · exact List.cons_ne_nil _ _
  · rename_i h
    rw [ne_eq, List.map_eq_nil_iff, List.reverse_eq_nil_iff]
    exact Nat.digits_ne_nil_iff_ne_zero.mpr h

/-- Every byte of a numeral is a digit. -/
theorem decimal_isDigit (n : Nat) : ∀ c ∈ decimal n, isDigit c = true := by
  intro c hc
  unfold decimal at hc
  split at hc
  · rw [List.mem_singleton.mp hc]
    rfl
  · obtain ⟨d, hd, rfl⟩ := List.mem_map.mp hc
    exact isDigit_digitByte (Nat.digits_lt_base (by decide) (List.mem_reverse.mp hd))

/-- The value of a run is read right to left from its digit list. -/
theorem value_reverse_map (ds : List Nat) (h : ∀ d ∈ ds, d < 10) :
    value (ds.reverse.map digitByte) = Nat.ofDigits 10 ds := by
  induction ds with
  | nil => rfl
  | cons d ds ih =>
      have hd : d < 10 := h d List.mem_cons_self
      have ih' := ih fun e he => h e (List.mem_cons_of_mem _ he)
      unfold value at ih' ⊢
      rw [List.reverse_cons, List.map_append, List.foldl_append, ih', Nat.ofDigits_cons]
      show Nat.ofDigits 10 ds * 10 + digitVal (digitByte d) = _
      rw [digitVal_digitByte hd]
      show Nat.ofDigits 10 ds * 10 + d = d + 10 * Nat.ofDigits 10 ds
      omega

/-- **Reading a numeral gives the number it was written for.** -/
theorem value_decimal (n : Nat) : value (decimal n) = n := by
  unfold decimal
  split
  · rename_i h
    rw [h]
    rfl
  · rw [value_reverse_map _ fun d hd => Nat.digits_lt_base (by decide) hd]
    exact Nat.ofDigits_digits 10 n

theorem decimal_length_le {n k : Nat} (hk : 0 < k) (h : n < 10 ^ k) : (decimal n).length ≤ k := by
  unfold decimal
  split
  · exact hk
  · rw [List.length_map, List.length_reverse]
    exact (Nat.digits_length_le_iff (by decide) n).mpr h

/-! ## 3. Saturating readers -/

/-- Holding the value at the ceiling after every digit is holding the result there. -/
theorem satValue_eq (cap : Nat) (ds : List UInt8) (v : Nat) :
    satValue cap (min v cap) ds = min (ds.foldl (fun v c => v * 10 + digitVal c) v) cap := by
  induction ds generalizing v with
  | nil => rfl
  | cons c ds ih =>
      have step : min (min v cap * 10 + digitVal c) cap = min (v * 10 + digitVal c) cap := by
        omega
      show satValue cap (min (min v cap * 10 + digitVal c) cap) ds = _
      rw [step]
      exact ih _

theorem satValue_decimal {cap n : Nat} (h : n ≤ cap) : satValue cap 0 (decimal n) = n := by
  have e := satValue_eq cap (decimal n) 0
  rw [Nat.zero_min] at e
  rw [e]
  show min (value (decimal n)) cap = n
  rw [value_decimal]
  omega

end Lib.Decimal
