/-
  File:      Openport/Lib/Loads.lean
  Subject:   Reading through a pointer and a length: loads and sizes that say when
             they fail, and the stretch of a buffer a function may look at.

  A library file: nothing here knows a particular program. `readAt` is a load and
  `sizeSub` a difference of two sizes; they are `none` where the program's
  would leave the buffer or wrap. A `Window` ties a pointer and a length to the
  list they stand for, so that code over indices can be compared with code over
  lists, an element at a time. `scanAt` and `findAt` are the two loops such code
  is made of: over a run of elements, and to the first place of a kind.
-/
import Mathlib.Data.List.Basic

namespace Lib.Loads

variable {α : Type}

/-- The element at `p`; `none` is a read outside the buffer. -/
def readAt (buf : List α) (p : Nat) : Option α := buf[p]?

/-- `n - i` on sizes; `none` where it would wrap. -/
def sizeSub (n i : Nat) : Option Nat := if i ≤ n then some (n - i) else none

/-- `l` is what the buffer holds from `p` on, as far as `l` goes. -/
structure Window (buf : List α) (p : Nat) (l : List α) : Prop where
  fits : p + l.length ≤ buf.length
  holds : (buf.drop p).take l.length = l

/-! ## 1. Moving a window -/

theorem window_whole (buf : List α) : Window buf 0 buf :=
  ⟨Nat.le_of_eq (Nat.zero_add _), List.take_length⟩

theorem Window.read {buf : List α} {p : Nat} {c : α} {t : List α} (w : Window buf p (c :: t)) :
    readAt buf p = some c := by
  have h : ((buf.drop p).take (t.length + 1))[0]? = some c := congrArg (·[0]?) w.holds
  rw [List.getElem?_take_of_lt (Nat.succ_pos _), List.getElem?_drop, Nat.add_zero] at h
  exact h

theorem Window.drop {buf : List α} {p : Nat} {l : List α} (w : Window buf p l) {i : Nat}
    (hi : i ≤ l.length) : Window buf (p + i) (l.drop i) := by
  have hfits := w.fits
  refine ⟨?_, ?_⟩
  · rw [List.length_drop]
    omega
  · rw [List.length_drop, ← List.drop_drop, ← List.drop_take, w.holds]

theorem Window.tail {buf : List α} {p : Nat} {c : α} {t : List α} (w : Window buf p (c :: t)) :
    Window buf (p + 1) t :=
  w.drop (Nat.le_add_left 1 t.length)

theorem Window.take {buf : List α} {p : Nat} {l : List α} (w : Window buf p l) (n : Nat) :
    Window buf p (l.take n) := by
  have hle : (l.take n).length ≤ l.length := by
    rw [List.length_take]
    exact Nat.min_le_right _ _
  refine ⟨Nat.le_trans (Nat.add_le_add_left hle p) w.fits, ?_⟩
  have h := congrArg (List.take (l.take n).length) w.holds
  rw [List.take_take, Nat.min_eq_left hle] at h
  rw [h, List.length_take, ← List.take_take, List.take_length]

theorem sizeSub_drop {l : List α} {i : Nat} (hi : i ≤ l.length) :
    sizeSub l.length i = some (l.drop i).length := by
  unfold sizeSub
  rw [if_pos hi, List.length_drop]

/-! ## 2. A run of elements -/

/-- How many elements from `p` on satisfy `q`, at most `left` of them. -/
def scanAt (q : α → Bool) (buf : List α) : Nat → Nat → Option Nat
  | 0, _ => some 0
  | left + 1, p =>
    (readAt buf p).bind fun c =>
      if q c then (scanAt q buf left (p + 1)).map (· + 1) else some 0

theorem Window.scan (q : α → Bool) {buf : List α} : ∀ {p : Nat} {l : List α}, Window buf p l →
    scanAt q buf l.length p = some (l.takeWhile q).length
  | _, [], _ => rfl
  | p, c :: t, w => by
      show ((readAt buf p).bind fun c =>
        if q c then (scanAt q buf t.length (p + 1)).map (· + 1) else some 0) = _
      rw [w.read, Option.bind_some, w.tail.scan q]
      cases hq : q c with
      | true =>
          rw [List.takeWhile_cons, hq]
          rfl
      | false =>
          rw [List.takeWhile_cons, hq]
          rfl

theorem drop_takeWhile (q : α → Bool) : ∀ l : List α,
    l.drop (l.takeWhile q).length = l.dropWhile q
  | [] => rfl
  | c :: t => by
      cases hq : q c with
      | true =>
          rw [List.takeWhile_cons, List.dropWhile_cons, hq]
          exact drop_takeWhile q t
      | false =>
          rw [List.takeWhile_cons, List.dropWhile_cons, hq]
          rfl

/-! ## 3. The first place of a kind -/

/-- The first of `left` places from `i` on that passes the test, `some none` for none. -/
def findAt (test : Nat → Option Bool) : Nat → Nat → Option (Option Nat)
  | 0, _ => some none
  | left + 1, i =>
    (test i).bind fun b => if b then some (some i) else findAt test left (i + 1)

/-- What is found is the least place; where nothing is, every place failed. -/
theorem findAt_least {test : Nat → Option Bool} : ∀ {left i : Nat} {r : Option Nat},
    findAt test left i = some r →
    (∀ k, r = some k → i ≤ k ∧ k < i + left ∧ test k = some true ∧
      ∀ j, i ≤ j → j < k → test j = some false) ∧
    (r = none → ∀ j, i ≤ j → j < i + left → test j = some false)
  | 0, i, r, h => by
      cases h
      exact ⟨fun _ e => (nomatch e), fun _ j hj hlt => absurd hlt (Nat.not_lt.mpr hj)⟩
  | left + 1, i, r, h => by
      unfold findAt at h
      obtain ⟨b, hb, h⟩ := Option.bind_eq_some_iff.mp h
      cases b with
      | true =>
          cases h
          refine ⟨?_, fun e => (nomatch e)⟩
          intro k e
          cases e
          exact ⟨Nat.le_refl _, by omega, hb, fun j hj hlt => absurd hlt (Nat.not_lt.mpr hj)⟩
      | false =>
          obtain ⟨hsome, hnone⟩ := findAt_least h
          refine ⟨?_, ?_⟩
          · intro k e
            obtain ⟨hk, hlt, ht, hmin⟩ := hsome k e
            refine ⟨by omega, by omega, ht, ?_⟩
            intro j hj hjk
            rcases Nat.eq_or_lt_of_le hj with rfl | hj
            · exact hb
            · exact hmin j hj hjk
          · intro e j hj hlt
            rcases Nat.eq_or_lt_of_le hj with rfl | hj
            · exact hb
            · exact hnone e j hj (by omega)

end Lib.Loads
