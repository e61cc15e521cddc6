/-
  File:      Openport/Lib/Pipe.lean
  Subject:   A bounded pipe: blocks are put in whole or lost whole, and any
             number of elements is read out at a time.

  A library file: nothing here knows a particular program. `Book` is the pipe
  with the blocks offered, fitted and lost and the pieces read; a read also
  reports the blocks lost since the one before. `balanced_run` says that what
  was read, followed by what is still held, is what fitted.
-/
import Mathlib.Data.List.Basic
import Mathlib.Data.List.Perm.Basic

namespace Lib.Pipe

variable {β : Type}

/-- What can be done to the pipe. -/
inductive Op (β : Type) where
  | offer (block : List β)
  | read (n : Nat)

/-- The pipe and its books. -/
structure Book (β : Type) where
  held : List β := []
  offered : List (List β) := []
  fitted : List (List β) := []
  /-- lost, and not yet reported by a read -/
  lost : List (List β) := []
  /-- lost, by the read that reported them -/
  reported : List (List (List β)) := []
  returned : List (List β) := []

section Run

variable (cap : Nat)

/-- A block that would take the pipe over its capacity is lost. -/
def Book.step (b : Book β) : Op β → Book β
  | .offer block =>
    if b.held.length + block.length ≤ cap then
      { b with
        held := b.held ++ block
        offered := b.offered ++ [block]
        fitted := b.fitted ++ [block] }
    else { b with offered := b.offered ++ [block], lost := b.lost ++ [block] }
  | .read n =>
    { b with
      held := b.held.drop n
      returned := b.returned ++ [b.held.take n]
      reported := b.reported ++ [b.lost]
      lost := [] }

def Book.run (b : Book β) (ops : List (Op β)) : Book β := ops.foldl (Book.step cap) b

/-- The books balance. -/
structure Book.Balanced (b : Book β) : Prop where
  /-- what was read, then what is held, is what fitted -/
  kept : b.returned.flatten ++ b.held = b.fitted.flatten
  /-- the blocks that fitted keep their order -/
  order : b.fitted.Sublist b.offered
  /-- no block is both or neither -/
  whole : (b.fitted ++ (b.reported.flatten ++ b.lost)).Perm b.offered
  bounded : b.held.length ≤ cap

variable {cap}

theorem step_fits {b : Book β} {block : List β} (h : b.held.length + block.length ≤ cap) :
    b.step cap (.offer block) =
      { b with
        held := b.held ++ block
        offered := b.offered ++ [block]
        fitted := b.fitted ++ [block] } := if_pos h

theorem step_lost {b : Book β} {block : List β} (h : ¬b.held.length + block.length ≤ cap) :
    b.step cap (.offer block) =
      { b with offered := b.offered ++ [block], lost := b.lost ++ [block] } := if_neg h

theorem balanced_new : ({} : Book β).Balanced cap :=
  ⟨rfl, List.Sublist.refl _, List.Perm.refl _, Nat.zero_le _⟩

/-- **One step keeps the books balanced.** -/
theorem balanced_step {b : Book β} (h : b.Balanced cap) (op : Op β) :
    (b.step cap op).Balanced cap := by
  have hk := h.kept
  have hw := h.whole
  cases op with
  | offer block =>
      by_cases hfit : b.held.length + block.length ≤ cap
      · rw [step_fits hfit]
        refine ⟨?_, h.order.append (List.Sublist.refl _), ?_, ?_⟩
        · show b.returned.flatten ++ (b.held ++ block) = (b.fitted ++ [block]).flatten
          rw [← List.append_assoc, hk, List.flatten_append, List.flatten_singleton]
        · show (b.fitted ++ [block] ++ (b.reported.flatten ++ b.lost)).Perm (b.offered ++ [block])
          refine List.Perm.trans ?_ (hw.append_right [block])
          rw [List.append_assoc, List.append_assoc]
          exact List.perm_append_comm.append_left b.fitted
        · show (b.held ++ block).length ≤ cap
          rw [List.length_append]
          exact hfit
      · rw [step_lost hfit]
        refine ⟨hk, h.order.trans (List.sublist_append_left _ _), ?_, h.bounded⟩
        show (b.fitted ++ (b.reported.flatten ++ (b.lost ++ [block]))).Perm (b.offered ++ [block])
        rw [← List.append_assoc b.reported.flatten, ← List.append_assoc b.fitted]
        exact hw.append_right [block]
  | read n =>
      refine ⟨?_, h.order, ?_, ?_⟩
      · show (b.returned ++ [b.held.take n]).flatten ++ b.held.drop n = b.fitted.flatten
        rw [List.flatten_append, List.flatten_singleton, List.append_assoc, List.take_append_drop,
          hk]
      · show (b.fitted ++ ((b.reported ++ [b.lost]).flatten ++ [])).Perm b.offered
        rw [List.append_nil, List.flatten_append, List.flatten_singleton]
        exact hw
      · show (b.held.drop n).length ≤ cap
        rw [List.length_drop]
        exact Nat.le_trans (Nat.sub_le _ _) h.bounded

/-- **Any run leaves the books balanced.** -/
theorem balanced_run (ops : List (Op β)) {b : Book β} (h : b.Balanced cap) :
    (b.run cap ops).Balanced cap := by
  induction ops generalizing b with
  | nil => exact h
  | cons op ops ih => exact ih (balanced_step h op)

end Run

end Lib.Pipe
