/-
  File:      Openport/Lib/Mirror.lean
  Subject:   A list that mirrors a finite set, and removal that fills the gap with
             the last entry.

  A library file: nothing here knows a particular program. One side of a protocol
  keeps a table of what the other side holds: `Mirrors ids live` says that the
  table has everything that is held, each once. A table that grows by what is new
  and gives up what it finds in itself goes on mirroring the set.
-/
import Mathlib.Data.Finset.Card
import Mathlib.Data.List.Perm.Basic

namespace Lib.Mirror

variable {α : Type}

/-! ## 1. Removal -/

/-- The entry at `slot` is removed, and the last entry takes its place; `x` is for the empty
    list. -/
def swapRemove (ids : List α) (slot : Nat) (x : α) : List α :=
  (ids.set slot (ids.getLastD x)).dropLast

/-- It is removal up to the order of what stays. -/
theorem swapRemove_perm {ids : List α} {slot : Nat} (h : slot < ids.length) (x : α) :
    (swapRemove ids slot x).Perm (ids.eraseIdx slot) := by
  rcases List.eq_nil_or_concat ids with rfl | ⟨l, z, rfl⟩
  · exact absurd h (Nat.not_lt_zero _)
  · rw [List.concat_eq_append] at h ⊢
    unfold swapRemove
    rw [List.getLastD_concat]
    rw [List.length_append, List.length_singleton] at h
    rcases Nat.lt_succ_iff_lt_or_eq.mp h with hlt | rfl
    · rw [List.set_append_left _ _ hlt, List.dropLast_concat, List.eraseIdx_append_of_lt_length hlt]
      exact (List.set_perm_cons_eraseIdx hlt z).trans (List.perm_append_singleton z _).symm
    · -- the last entry itself
      have hset : (l ++ [z]).set l.length z = l ++ [z] := by
        rw [List.set_append_right _ _ (Nat.le_refl _), Nat.sub_self]
        rfl
      have herase : (l ++ [z]).eraseIdx l.length = l := by
        rw [List.eraseIdx_append_of_length_le (Nat.le_refl _), Nat.sub_self]
        exact List.append_nil l
      rw [hset, herase, List.dropLast_concat]

/-! ## 2. The mirror -/

/-- The list has every element of the set, each once, and no other. -/
structure Mirrors (ids : List α) (live : Finset α) : Prop where
  nodup : ids.Nodup
  mem : ∀ x, x ∈ ids ↔ x ∈ live

variable {ids : List α} {live : Finset α}

theorem mirrors_nil : Mirrors ([] : List α) ∅ :=
  ⟨List.nodup_nil, fun _ => ⟨fun h => (nomatch h), fun h => absurd h (Finset.notMem_empty _)⟩⟩

/-- What is new goes to the end. -/
theorem Mirrors.append [DecidableEq α] (h : Mirrors ids live) {x : α} (hx : x ∉ live) :
    Mirrors (ids ++ [x]) (insert x live) := by
  refine ⟨?_, ?_⟩
  · exact List.nodup_append.mpr ⟨h.nodup, List.nodup_singleton x, fun y hy z hz e => by
      rw [List.mem_singleton.mp hz] at e
      exact hx ((h.mem x).mp (e ▸ hy))⟩
  · intro y
    rw [List.mem_append, List.mem_singleton, Finset.mem_insert, h.mem, Or.comm]

/-- **What is found in the table may be given up by both sides.** -/
theorem Mirrors.swapRemove [DecidableEq α] (h : Mirrors ids live) {slot : Nat}
    (hs : slot < ids.length) (x : α) :
    Mirrors (swapRemove ids slot x) (live.erase ids[slot]) := by
  have hperm := swapRemove_perm hs x
  have hall : (ids[slot] :: ids.eraseIdx slot).Perm ids := List.getElem_cons_eraseIdx_perm hs
  obtain ⟨hno, hrest⟩ := List.nodup_cons.mp (hall.nodup_iff.mpr h.nodup)
  refine ⟨hperm.nodup_iff.mpr hrest, ?_⟩
  intro y
  have hy : y ∈ ids ↔ y = ids[slot] ∨ y ∈ ids.eraseIdx slot := by
    rw [← hall.mem_iff, List.mem_cons]
  rw [hperm.mem_iff, Finset.mem_erase, ← h.mem, hy]
  constructor
  · intro hm
    exact ⟨fun e => hno (e ▸ hm), Or.inr hm⟩
  · rintro ⟨hne, e | hm⟩
    · exact absurd e hne
    · exact hm

/-- The table is as long as the set is large. -/
theorem Mirrors.length [DecidableEq α] (h : Mirrors ids live) : ids.length = live.card := by
  have hset : ids.toFinset = live := Finset.ext fun x => by rw [List.mem_toFinset, h.mem]
  rw [← hset, List.toFinset_card_of_nodup h.nodup]

end Lib.Mirror
