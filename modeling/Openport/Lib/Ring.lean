/-
  File:      Openport/Lib/Ring.lean
  Subject:   A ring over a flat array: a block written at the tail, or read at
             the head, is copied in two pieces when it passes the array's end.

  A library file: nothing here knows a particular program. `content` is what the
  ring holds, read from the head; `content_put` says a block that fits is put
  behind it, `content_add` that reading a block leaves the rest, and `get_eq`
  that the two-piece copy reads exactly the block.
-/
import Mathlib.Data.List.Basic

namespace Lib.Ring

variable {β : Type}

/-- A flat array; only the cells below the ring's capacity are used. -/
abbrev Mem (β : Type) := Nat → β

/-- Copy a block into the array from cell `p` on. -/
def store (m : Mem β) (p : Nat) (src : List β) : Mem β := fun i =>
  if p ≤ i then (src[i - p]?).getD (m i) else m i

/-- The `n` cells of the array from cell `p` on. -/
def cells (m : Mem β) (p n : Nat) : List β := (List.range n).map fun k => m (p + k)

/-- Write a block at the tail: up to the end of the array, then from its start. -/
def put (cap : Nat) (m : Mem β) (tail : Nat) (src : List β) : Mem β :=
  let first := min (cap - tail) src.length
  store (store m tail (src.take first)) 0 (src.drop first)

/-- Read a block at the head: up to the end of the array, then from its start. -/
def get (cap : Nat) (m : Mem β) (head n : Nat) : List β :=
  let first := min (cap - head) n
  cells m head first ++ cells m 0 (n - first)

/-- What a ring of `n` used cells holds, read from the head. -/
def content (cap : Nat) (m : Mem β) (head n : Nat) : List β :=
  (List.range n).map fun k => m ((head + k) % cap)

/-! ## 1. Blocks of the array -/

@[simp] theorem cells_length (m : Mem β) (p n : Nat) : (cells m p n).length = n := by
  unfold cells
  rw [List.length_map, List.length_range]

@[simp] theorem content_length (cap : Nat) (m : Mem β) (head n : Nat) :
    (content cap m head n).length = n := by
  unfold content
  rw [List.length_map, List.length_range]

theorem content_getElem (cap : Nat) (m : Mem β) (head n k : Nat)
    (h : k < (content cap m head n).length) :
    (content cap m head n)[k] = m ((head + k) % cap) := by
  simp only [content, List.getElem_map, List.getElem_range]

/-- A block read across two halves. -/
theorem content_add (cap : Nat) (m : Mem β) (head a b : Nat) :
    content cap m head (a + b) = content cap m head a ++ content cap m ((head + a) % cap) b := by
  unfold content
  rw [List.range_add, List.map_append, List.map_map]
  congr 1
  refine List.map_congr_left ?_
  intro k _
  show m ((head + (a + k)) % cap) = m (((head + a) % cap + k) % cap)
  rw [Nat.mod_add_mod, Nat.add_assoc]

/-- **The two-piece read is the block at the head.** -/
theorem get_eq {cap : Nat} (m : Mem β) {head n : Nat} (hh : head < cap) (hn : n ≤ cap) :
    get cap m head n = content cap m head n := by
  have hsplit : n = min (cap - head) n + (n - min (cap - head) n) := by omega
  have hleft : cells m head (min (cap - head) n) = content cap m head (min (cap - head) n) := by
    refine List.map_congr_left ?_
    intro k hk
    have hk' : k < min (cap - head) n := List.mem_range.mp hk
    rw [Nat.mod_eq_of_lt (by omega)]
  have hright : cells m 0 (n - min (cap - head) n) =
      content cap m ((head + min (cap - head) n) % cap) (n - min (cap - head) n) := by
    refine List.map_congr_left ?_
    intro k hk
    have hk' : k < n - min (cap - head) n := List.mem_range.mp hk
    have hend : head + min (cap - head) n = cap := by omega
    rw [hend, Nat.mod_self, Nat.mod_eq_of_lt (by omega)]
  show cells m head (min (cap - head) n) ++ cells m 0 (n - min (cap - head) n) = _
  rw [hleft, hright, ← content_add, ← hsplit]

/-! ## 2. Writing a block -/

theorem store_zero (m : Mem β) (src : List β) (i : Nat) :
    store m 0 src i = (src[i]?).getD (m i) := if_pos (Nat.zero_le i)

theorem store_add (m : Mem β) (p j : Nat) (src : List β) :
    store m p src (p + j) = (src[j]?).getD (m (p + j)) := by
  unfold store
  rw [if_pos (Nat.le_add_right p j), Nat.add_sub_cancel_left]

/-- The block just written is read back. -/
theorem cells_store (m : Mem β) (src : List β) : cells (store m 0 src) 0 src.length = src := by
  refine List.ext_getElem (cells_length _ _ _) ?_
  intro k h1 h2
  have hk : (cells (store m 0 src) 0 src.length)[k] = store m 0 src (0 + k) := by
    simp only [cells, List.getElem_map, List.getElem_range]
  rw [hk, store_add, List.getElem?_eq_getElem h2]
  rfl

/-- A block written behind `n` cells is read back with them. -/
theorem cells_store_append (m : Mem β) (n : Nat) (src : List β) :
    cells (store m n src) 0 (n + src.length) = cells m 0 n ++ src := by
  have hfront : cells (store m n src) 0 n = cells m 0 n := by
    refine List.map_congr_left fun k hk => if_neg ?_
    have hk' : k < n := List.mem_range.mp hk
    omega
  have hback : cells (store m n src) n src.length = src := by
    refine List.ext_getElem (cells_length _ _ _) ?_
    intro k h1 h2
    have hk : (cells (store m n src) n src.length)[k] = store m n src (n + k) := by
      simp only [cells, List.getElem_map, List.getElem_range]
    rw [hk, store_add, List.getElem?_eq_getElem h2]
    rfl
  have hsplit : cells (store m n src) 0 (n + src.length) =
      cells (store m n src) 0 n ++ cells (store m n src) n src.length := by
    unfold cells
    rw [List.range_add, List.map_append, List.map_map]
    refine congrArg _ (List.map_congr_left ?_)
    intro k _
    show store m n src (0 + (n + k)) = _
    rw [Nat.zero_add]
  rw [hsplit, hfront, hback]

/-- **A write at the front leaves a block there as it was exactly when neither contradicts the
    other.** -/
theorem cells_store_kept {m : Mem β} {src b : List β} (hb : cells m 0 b.length = b) :
    cells (store m 0 src) 0 b.length = b ↔ src <+: b ∨ b <+: src := by
  have hcell : ∀ (m : Mem β) k (h : k < (cells m 0 b.length).length),
      (cells m 0 b.length)[k] = m k := fun m k h => by
    simp only [cells, List.getElem_map, List.getElem_range, Nat.zero_add]
  constructor
  · intro h
    -- where both have an element it is the one the write left
    have hsame : ∀ k (h1 : k < src.length) (h2 : k < b.length), src[k] = b[k] := fun k h1 h2 => by
      have hk := hcell (store m 0 src) k (by rwa [cells_length])
      rw [List.getElem_of_eq h, store_zero, List.getElem?_eq_getElem h1] at hk
      exact hk.symm
    rcases Nat.le_total src.length b.length with hl | hl
    · refine .inl (List.prefix_iff_eq_take.mpr (List.ext_getElem ?_ ?_))
      · rw [List.length_take, Nat.min_eq_left hl]
      · intro k h1 h2
        rw [List.getElem_take]
        exact hsame k h1 (Nat.lt_of_lt_of_le h1 hl)
    · refine .inr (List.prefix_iff_eq_take.mpr (List.ext_getElem ?_ ?_))
      · rw [List.length_take, Nat.min_eq_left hl]
      · intro k h1 h2
        rw [List.getElem_take]
        exact (hsame k (Nat.lt_of_lt_of_le h1 hl) h1).symm
  · intro h
    refine List.ext_getElem (cells_length _ _ _) ?_
    intro k h1 h2
    have hk := hcell m k (by rwa [cells_length])
    rw [List.getElem_of_eq hb] at hk
    rw [hcell _ k h1, store_zero]
    by_cases hs : k < src.length
    · rw [List.getElem?_eq_getElem hs]
      rcases h with h | h
      · exact List.IsPrefix.getElem h hs
      · exact (List.IsPrefix.getElem h h2).symm
    · rw [List.getElem?_eq_none (Nat.le_of_not_lt hs)]
      exact hk.symm

/-- A cell of the array after a write, counted from the tail: the block's element there, or
    what the cell held. -/
theorem put_cell {cap : Nat} (m : Mem β) {tail : Nat} {src : List β} (ht : tail < cap)
    (hs : src.length ≤ cap) {j : Nat} (hj : j < cap) :
    put cap m tail src ((tail + j) % cap) = (src[j]?).getD (m ((tail + j) % cap)) := by
  unfold put
  rw [store_zero, List.getElem?_drop]
  by_cases hw : tail + j < cap
  · -- the cell is before the array's end: the second piece does not reach it
    rw [Nat.mod_eq_of_lt hw, List.getElem?_eq_none (by omega)]
    show store m tail (src.take (min (cap - tail) src.length)) (tail + j) = _
    rw [store_add, List.getElem?_take]
    by_cases hjs : j < src.length
    · rw [if_pos (by omega)]
    · rw [if_neg (by omega), List.getElem?_eq_none (by omega)]
  · -- it is behind it: the first piece does not reach it
    have hm : (tail + j) % cap = tail + j - cap := by
      rw [Nat.mod_eq_sub_mod (by omega), Nat.mod_eq_of_lt (by omega)]
    rw [hm]
    have hkeep : store m tail (src.take (min (cap - tail) src.length)) (tail + j - cap) =
        m (tail + j - cap) := if_neg (by omega)
    rw [hkeep]
    by_cases hl : cap - tail ≤ src.length
    · rw [show min (cap - tail) src.length + (tail + j - cap) = j by omega]
    · rw [List.getElem?_eq_none (by omega), List.getElem?_eq_none (by omega)]

/-- **A block that fits is put behind what the ring holds.** -/
theorem content_put {cap : Nat} (m : Mem β) {head : Nat} (n : Nat) (src : List β) (hh : head < cap)
    (hfit : n + src.length ≤ cap) :
    content cap (put cap m ((head + n) % cap) src) head (n + src.length) =
      content cap m head n ++ src := by
  have hc : 0 < cap := by omega
  have ht : (head + n) % cap < cap := Nat.mod_lt _ hc
  rw [content_add]
  congr 1
  · -- the cells in use are the last ones a write from the tail would reach
    refine List.map_congr_left ?_
    intro k hk
    have hk' : k < n := List.mem_range.mp hk
    have hpos : (head + k) % cap = ((head + n) % cap + (k + cap - n)) % cap := by
      rw [Nat.mod_add_mod, show head + n + (k + cap - n) = head + k + cap by omega,
        Nat.add_mod_right]
    rw [hpos, put_cell m ht (by omega) (by omega), List.getElem?_eq_none (by omega)]
    rfl
  · refine List.ext_getElem (content_length _ _ _ _) ?_
    intro k h1 h2
    rw [content_getElem, put_cell m ht (by omega) (by omega), List.getElem?_eq_getElem h2]
    rfl

end Lib.Ring
