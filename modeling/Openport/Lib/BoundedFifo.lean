/-
  File:      Openport/Lib/BoundedFifo.lean
  Subject:   A first-in first-out queue of bounded total cost that refuses the
             arriving item when there is no room, with the books kept on it.

  A library file: nothing here knows a particular program. `Book` is the queue
  together with what was offered, accepted, popped and refused since the last
  reset; `balanced_run` says that the books balance after any run.
-/
import Mathlib.Data.List.Basic
import Mathlib.Algebra.BigOperators.Group.List.Basic
import Mathlib.Algebra.GroupWithZero.Nat

namespace Lib.BoundedFifo

variable {σ : Type}

/-! ## 1. The queue and its books -/

/-- What can be done to the queue. `take` reads the count of refused items and clears it. -/
inductive Op (σ : Type) where
  | offer (x : σ)
  | pop
  | take
  | reset

/-- The queue and its books since the last reset. -/
structure Book (σ : Type) where
  queue : List σ := []
  offered : List σ := []
  accepted : List σ := []
  popped : List σ := []
  /-- refused items already read by `take` -/
  taken : Nat := 0
  /-- refused items not yet read -/
  pending : Nat := 0

/-- What a list of items costs. -/
def total (cost : σ → Nat) (q : List σ) : Nat := (q.map cost).sum

@[simp] theorem total_nil (cost : σ → Nat) : total cost [] = 0 := rfl

@[simp] theorem total_cons (cost : σ → Nat) (x : σ) (q : List σ) :
    total cost (x :: q) = cost x + total cost q := by
  unfold total
  rw [List.map_cons, List.sum_cons]

@[simp] theorem total_append (cost : σ → Nat) (p q : List σ) :
    total cost (p ++ q) = total cost p + total cost q := by
  unfold total
  rw [List.map_append, List.sum_append]

section Run

variable (cost : σ → Nat) (cap : Nat)

/-- An item that would take the queue over its capacity is refused. -/
def Book.step (b : Book σ) : Op σ → Book σ
  | .offer x =>
    if total cost b.queue + cost x ≤ cap then
      { b with queue := b.queue ++ [x], offered := b.offered ++ [x], accepted := b.accepted ++ [x] }
    else { b with offered := b.offered ++ [x], pending := b.pending + 1 }
  | .pop =>
    match b.queue with
    | [] => b
    | x :: q => { b with queue := q, popped := b.popped ++ [x] }
  | .take => { b with taken := b.taken + b.pending, pending := 0 }
  | .reset => {}

def Book.run (b : Book σ) (ops : List (Op σ)) : Book σ := ops.foldl (Book.step cost cap) b

/-- The books balance. -/
structure Book.Balanced (b : Book σ) : Prop where
  fifo : b.accepted = b.popped ++ b.queue
  conserved : b.offered.length = b.popped.length + b.queue.length + b.taken + b.pending
  bounded : total cost b.queue ≤ cap

variable {cost cap}

theorem step_offer {b : Book σ} {x : σ} (h : total cost b.queue + cost x ≤ cap) :
    b.step cost cap (.offer x) =
      { b with
        queue := b.queue ++ [x]
        offered := b.offered ++ [x]
        accepted := b.accepted ++ [x] } :=
  if_pos h

theorem step_refuse {b : Book σ} {x : σ} (h : ¬total cost b.queue + cost x ≤ cap) :
    b.step cost cap (.offer x) = { b with offered := b.offered ++ [x], pending := b.pending + 1 } :=
  if_neg h

theorem step_pop_nil {b : Book σ} (h : b.queue = []) : b.step cost cap .pop = b := by
  simp only [Book.step, h]

theorem step_pop_cons {b : Book σ} {x : σ} {q : List σ} (h : b.queue = x :: q) :
    b.step cost cap .pop = { b with queue := q, popped := b.popped ++ [x] } := by
  simp only [Book.step, h]

theorem balanced_new : (({} : Book σ)).Balanced cost cap :=
  ⟨rfl, rfl, Nat.zero_le _⟩

/-- **One step keeps the books balanced.** -/
theorem balanced_step {b : Book σ} (h : b.Balanced cost cap) (op : Op σ) :
    (b.step cost cap op).Balanced cost cap := by
  have hf := h.fifo
  have hc := h.conserved
  have hb := h.bounded
  cases op with
  | offer x =>
      by_cases hroom : total cost b.queue + cost x ≤ cap
      · rw [step_offer hroom]
        refine ⟨?_, ?_, ?_⟩
        · show b.accepted ++ [x] = b.popped ++ (b.queue ++ [x])
          rw [hf, List.append_assoc]
        · simp only [List.length_append, List.length_singleton]
          omega
        · show total cost (b.queue ++ [x]) ≤ cap
          rw [total_append, total_cons, total_nil]
          omega
      · rw [step_refuse hroom]
        refine ⟨hf, ?_, hb⟩
        simp only [List.length_append, List.length_singleton]
        omega
  | pop =>
      cases hq : b.queue with
      | nil =>
          rw [step_pop_nil hq]
          exact h
      | cons x q =>
          rw [step_pop_cons hq]
          rw [hq] at hf hc hb
          refine ⟨?_, ?_, ?_⟩
          · show b.accepted = b.popped ++ [x] ++ q
            rw [hf, List.append_assoc]
            rfl
          · simp only [List.length_append, List.length_cons, List.length_nil] at hc ⊢
            omega
          · rw [total_cons] at hb
            show total cost q ≤ cap
            omega
  | take =>
      refine ⟨hf, ?_, hb⟩
      show b.offered.length = b.popped.length + b.queue.length + (b.taken + b.pending) + 0
      omega
  | reset => exact balanced_new

/-- **Any run from a fresh queue leaves the books balanced.** -/
theorem balanced_run (ops : List (Op σ)) {b : Book σ} (h : b.Balanced cost cap) :
    (b.run cost cap ops).Balanced cost cap := by
  induction ops generalizing b with
  | nil => exact h
  | cons op ops ih => exact ih (balanced_step h op)

end Run

/-! ## 2. What a row of offers leaves

  Each item is tested against the room there is, so a small one may be accepted
  behind a large one that was refused. -/

section Kept

variable (cost : σ → Nat) (cap : Nat)

/-- The items accepted of a row offered to a queue that costs `used` already. -/
def kept (used : Nat) : List σ → List σ
  | [] => []
  | x :: xs => if used + cost x ≤ cap then x :: kept (used + cost x) xs else kept used xs

/-- Behind the first item there is no room for, no item finds room. -/
def Contiguous (used : Nat) (xs : List σ) : Prop :=
  ∀ pre x post, xs = pre ++ x :: post → used + total cost pre ≤ cap →
    ¬used + total cost (pre ++ [x]) ≤ cap → ∀ y ∈ post, ¬used + total cost (pre ++ [y]) ≤ cap

variable {cost cap}

theorem kept_cons_fits {used : Nat} {x : σ} (h : used + cost x ≤ cap) (xs : List σ) :
    kept cost cap used (x :: xs) = x :: kept cost cap (used + cost x) xs := if_pos h

theorem kept_cons_full {used : Nat} {x : σ} (h : ¬used + cost x ≤ cap) (xs : List σ) :
    kept cost cap used (x :: xs) = kept cost cap used xs := if_neg h

/-- What is kept was offered and fits. -/
theorem mem_kept {used : Nat} {xs : List σ} {y : σ} (h : y ∈ kept cost cap used xs) :
    y ∈ xs ∧ used + cost y ≤ cap := by
  induction xs generalizing used with
  | nil => cases h
  | cons x xs ih =>
      by_cases hx : used + cost x ≤ cap
      · rw [kept_cons_fits hx] at h
        rcases List.mem_cons.mp h with rfl | h
        · exact ⟨List.mem_cons_self, hx⟩
        · obtain ⟨hm, hy⟩ := ih h
          exact ⟨List.mem_cons_of_mem _ hm, by omega⟩
      · rw [kept_cons_full hx] at h
        obtain ⟨hm, hy⟩ := ih h
        exact ⟨List.mem_cons_of_mem _ hm, hy⟩

/-- A row of offers behind another finds the room that one left. -/
theorem kept_append (used : Nat) (xs ys : List σ) :
    kept cost cap used (xs ++ ys) = kept cost cap used xs ++
      kept cost cap (used + total cost (kept cost cap used xs)) ys := by
  induction xs generalizing used with
  | nil => rfl
  | cons x xs ih =>
      rw [List.cons_append]
      by_cases hx : used + cost x ≤ cap
      · rw [kept_cons_fits hx, kept_cons_fits hx, ih, total_cons, Nat.add_assoc]
        rfl
      · rw [kept_cons_full hx, kept_cons_full hx, ih]

/-- A row there is room for is kept whole. -/
theorem kept_all {used : Nat} {xs : List σ} (h : used + total cost xs ≤ cap) :
    kept cost cap used xs = xs := by
  induction xs generalizing used with
  | nil => rfl
  | cons x xs ih =>
      rw [total_cons] at h
      rw [kept_cons_fits (by omega), ih (by omega)]

/-- Nothing is kept exactly where nothing fits. -/
theorem kept_eq_nil {used : Nat} {xs : List σ} :
    kept cost cap used xs = [] ↔ ∀ y ∈ xs, ¬used + cost y ≤ cap := by
  induction xs with
  | nil => exact ⟨fun _ y hy => absurd hy List.not_mem_nil, fun _ => rfl⟩
  | cons x xs ih =>
      by_cases hx : used + cost x ≤ cap
      · rw [kept_cons_fits hx]
        exact ⟨fun e => absurd e (List.cons_ne_nil _ _),
          fun h => absurd hx (h x List.mem_cons_self)⟩
      · rw [kept_cons_full hx, ih]
        exact ⟨fun h => List.forall_mem_cons.mpr ⟨hx, h⟩, fun h => (List.forall_mem_cons.mp h).2⟩

theorem contiguous_cons_fits {used : Nat} {x : σ} (h : used + cost x ≤ cap) (xs : List σ) :
    Contiguous cost cap used (x :: xs) ↔ Contiguous cost cap (used + cost x) xs := by
  have hsum : ∀ pre : List σ, used + total cost (x :: pre) = used + cost x +
    total cost pre := fun pre => by
    rw [total_cons, Nat.add_assoc]
  refine ⟨?_, ?_⟩
  · intro hc pre z post e hp hz y hy
    have := hc (x :: pre) z post (by rw [e]; rfl) (by rw [hsum]; exact hp)
      (by rw [List.cons_append, hsum]; exact hz) y hy
    rwa [List.cons_append, hsum] at this
  · intro hc pre z post e hp hz y hy
    cases pre with
    | nil =>
        obtain ⟨rfl, rfl⟩ := List.cons.inj e
        rw [List.nil_append, hsum, total_nil] at hz
        exact absurd h hz
    | cons w pre =>
        obtain ⟨rfl, rfl⟩ := List.cons.inj e
        rw [List.cons_append, hsum] at hz ⊢
        rw [hsum] at hp
        exact hc pre z post rfl hp hz y hy

theorem contiguous_cons_full {used : Nat} {x : σ} (hu : used ≤ cap) (h : ¬used + cost x ≤ cap)
    (xs : List σ) :
    Contiguous cost cap used (x :: xs) ↔ ∀ y ∈ xs, ¬used + cost y ≤ cap := by
  have hone : ∀ y : σ, used + total cost ([] ++ [y]) = used + cost y := fun y => by
    rw [List.nil_append, total_cons, total_nil, Nat.add_zero]
  refine ⟨?_, ?_⟩
  · intro hc y hy
    have := hc [] x xs rfl (by rw [total_nil]; exact hu) (by rw [hone]; exact h) y hy
    rwa [hone] at this
  · intro hall pre z post e hp hz y hy
    cases pre with
    | nil =>
        obtain ⟨rfl, rfl⟩ := List.cons.inj e
        rw [hone]
        exact hall y hy
    | cons w pre =>
        obtain ⟨rfl, -⟩ := List.cons.inj e
        rw [total_cons] at hp
        exact absurd (by omega) h

/-- **What is kept is the beginning of the row exactly where behind the first refused item
    nothing finds room**, read through any view that tells items of different cost apart. -/
theorem kept_prefix_iff {τ : Type} {view : σ → τ} (hview : ∀ x y, view x = view y → cost x = cost y)
    {used : Nat} (hu : used ≤ cap) (xs : List σ) :
    (kept cost cap used xs).map view <+: xs.map view ↔ Contiguous cost cap used xs := by
  induction xs generalizing used with
  | nil =>
      refine ⟨?_, fun _ => List.prefix_refl _⟩
      intro _ pre x post e
      exact absurd e (by simp)
  | cons x xs ih =>
      by_cases hx : used + cost x ≤ cap
      · rw [kept_cons_fits hx, contiguous_cons_fits hx, List.map_cons, List.map_cons,
          List.cons_prefix_cons, ← ih hx]
        exact ⟨fun h => h.2, fun h => ⟨rfl, h⟩⟩
      · rw [kept_cons_full hx, contiguous_cons_full hu hx]
        refine ⟨?_, ?_⟩
        · intro hpre
          cases hk : kept cost cap used xs with
          | nil => exact kept_eq_nil.mp hk
          | cons y ys =>
              -- the kept item stands where the refused one was offered
              rw [hk, List.map_cons, List.map_cons] at hpre
              have he := hview y x (List.cons_prefix_cons.mp hpre).1
              have hmem : y ∈ kept cost cap used xs := by
                rw [hk]
                exact List.mem_cons_self
              have hy := (mem_kept hmem).2
              rw [he] at hy
              exact absurd hy hx
        · intro hall
          rw [kept_eq_nil.mpr hall]
          exact List.nil_prefix

end Kept

end Lib.BoundedFifo
