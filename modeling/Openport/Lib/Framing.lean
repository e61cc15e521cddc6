/-
  File:      Openport/Lib/Framing.lean
  Subject:   A decoder that takes items off the front of a buffer, and a stream of
             code words cut into chunks anywhere.

  `next` looks at a buffer and either waits or hands on one item and the rest.
  `drain` repeats it until it waits. A word `w` CODES an item (`Code`) when
  `next` takes exactly `w` off any buffer that begins with it and waits on
  every proper prefix of it. Then a buffer that holds the beginning of a stream
  of words drains to exactly the whole words in it and keeps the beginning of
  the word it was cut in (`drain_stream`), so the cuts do not show.
-/
import Mathlib.Data.List.Basic

namespace Lib.Framing

variable {β ι : Type}

/-! ## 1. Draining a buffer -/

/-- Take items off the buffer until the decoder waits, at most `n` of them. -/
def drainFuel (next : List β → Option (ι × List β)) : Nat → List β → List ι × List β
  | 0, s => ([], s)
  | n + 1, s =>
    match next s with
    | none => ([], s)
    | some (i, rest) => (i :: (drainFuel next n rest).1, (drainFuel next n rest).2)

/-- Take items off the buffer until the decoder waits. Every item takes at least one
    element, so the buffer's length is fuel enough (`drain_eq`). -/
def drain (next : List β → Option (ι × List β)) (s : List β) : List ι × List β :=
  drainFuel next s.length s

/-- Every item the decoder hands on takes something off the buffer. -/
def Shrinks (next : List β → Option (ι × List β)) : Prop :=
  ∀ s i rest, next s = some (i, rest) → rest.length < s.length

/-- The word codes the item: it is taken whole off any buffer it begins, and the decoder
    waits on every proper prefix of it. -/
structure Code (next : List β → Option (ι × List β)) (w : List β) (i : ι) : Prop where
  whole : ∀ rest, next (w ++ rest) = some (i, rest)
  waits : ∀ p, p <+: w → p ≠ w → next p = none

/-- **Where a stream of words is cut**: behind whole words, or inside the next one. -/
theorem words_cut : ∀ (ws : List (List β × ι)) (p q : List β), p ++ q = (ws.map (·.1)).flatten →
    ∃ done todo rest, ws = done ++ todo ∧ p = (done.map (·.1)).flatten ++ rest ∧
      rest ++ q = (todo.map (·.1)).flatten ∧
      (rest = [] ∨ ∃ w more, todo = w :: more ∧ rest <+: w.1 ∧ rest ≠ w.1)
  | [], p, q, h => by
      obtain ⟨rfl, rfl⟩ := List.append_eq_nil_iff.mp h
      exact ⟨[], [], [], rfl, rfl, rfl, Or.inl rfl⟩
  | (w, i) :: ws, p, q, h => by
      have h' : p ++ q = w ++ (ws.map (·.1)).flatten := h
      rcases List.append_eq_append_iff.mp h' with ⟨r, hr, hq⟩ | ⟨r, hr, hq⟩
      · by_cases hr0 : r = []
        · -- the cut is behind the word
          subst hr0
          rw [List.append_nil] at hr
          rw [List.nil_append] at hq
          exact ⟨[(w, i)], ws, [], rfl, by rw [hr]; simp, hq, Or.inl rfl⟩
        · refine ⟨[], (w, i) :: ws, p, rfl, rfl, h, Or.inr ⟨(w, i), ws, rfl, ⟨r, hr.symm⟩, ?_⟩⟩
          intro e
          rw [e] at hr
          exact hr0 (List.append_right_eq_self.mp hr.symm)
      · obtain ⟨done, todo, rest, e1, e2, e3, e4⟩ := words_cut ws r q hq.symm
        refine ⟨(w, i) :: done, todo, rest, by rw [e1]; rfl, ?_, e3, e4⟩
        rw [hr, e2, List.map_cons, List.flatten_cons, List.append_assoc]

section Drain

variable {next : List β → Option (ι × List β)} (hs : Shrinks next)
include hs

/-- More fuel than elements changes nothing. -/
theorem drainFuel_eq : ∀ (n : Nat) (s : List β), s.length ≤ n →
    drainFuel next n s = drainFuel next s.length s
  | 0, s, h => by
      have e : s.length = 0 := Nat.le_zero.mp h
      rw [e]
  | n + 1, s, h => by
      cases hl : s.length with
      | zero =>
          have e : s = [] := List.length_eq_zero_iff.mp hl
          unfold drainFuel
          cases hn : next s with
          | none => rfl
          | some p =>
              have := hs s p.1 p.2 hn
              omega
      | succ m =>
          unfold drainFuel
          cases hn : next s with
          | none => rfl
          | some p =>
              have hlt := hs s p.1 p.2 hn
              have h1 := drainFuel_eq n p.2 (by omega)
              have h2 := drainFuel_eq m p.2 (by omega)
              simp only [h1, h2]

/-- **Draining is one step and draining the rest.** -/
theorem drain_eq (s : List β) : drain next s =
    match next s with
    | none => ([], s)
    | some (i, rest) => (i :: (drain next rest).1, (drain next rest).2) := by
  unfold drain
  cases hl : s.length with
  | zero =>
      unfold drainFuel
      cases hn : next s with
      | none => rfl
      | some p =>
          have := hs s p.1 p.2 hn
          omega
  | succ m =>
      rw [drainFuel]
      cases hn : next s with
      | none => rfl
      | some p =>
          have hlt := hs s p.1 p.2 hn
          have h1 := drainFuel_eq hs m p.2 (by omega)
          simp only [h1]

theorem drain_wait {s : List β} (h : next s = none) : drain next s = ([], s) := by
  rw [drain_eq hs, h]

theorem drain_item {s rest : List β} {i : ι} (h : next s = some (i, rest)) :
    drain next s = (i :: (drain next rest).1, (drain next rest).2) := by
  rw [drain_eq hs, h]

/-- What draining leaves is a buffer the decoder waits on. -/
theorem drain_rest (s : List β) : next (drain next s).2 = none := by
  induction hn : s.length using Nat.strongRecOn generalizing s with
  | ind n ih =>
      cases h : next s with
      | none => rw [drain_wait hs h]; exact h
      | some p =>
          rw [drain_item hs h]
          exact ih p.2.length (hn ▸ hs s p.1 p.2 h) p.2 rfl

/-- What draining leaves is an end of the buffer, when every step's rest is. -/
theorem drain_suffix (hsuf : ∀ s i rest, next s = some (i, rest) → rest <:+ s) (s : List β) :
    (drain next s).2 <:+ s := by
  induction hn : s.length using Nat.strongRecOn generalizing s with
  | ind n ih =>
      cases h : next s with
      | none =>
          exact (drain_wait hs h).symm ▸ List.suffix_refl s
      | some p =>
          rw [drain_item hs h]
          exact (ih p.2.length (hn ▸ hs s p.1 p.2 h) p.2 rfl).trans (hsuf s p.1 p.2 h)

/-! ## 2. A stream of code words -/

/-- A word that codes an item is not empty: the empty word would be taken forever. -/
theorem Code.ne_nil {w : List β} {i : ι} (h : Code next w i) : w ≠ [] := by
  intro e
  subst e
  have := hs [] i [] (h.whole [])
  exact Nat.lt_irrefl _ this

/-- An empty buffer has no item. -/
theorem next_nil : next ([] : List β) = none := by
  cases hn : next ([] : List β) with
  | none => rfl
  | some r => exact absurd (hs [] r.1 r.2 hn) (Nat.not_lt_zero _)

theorem drain_nil : drain next ([] : List β) = ([], []) := drain_wait hs (next_nil hs)

/-- Whole words in front of a buffer are taken off it first. -/
theorem drain_words {ws : List (List β × ι)}
    (hw : ∀ w ∈ ws, ∀ rest, next (w.1 ++ rest) = some (w.2, rest)) (s : List β) :
    drain next ((ws.map (·.1)).flatten ++ s) = (ws.map (·.2) ++ (drain next s).1, (drain next s).2) := by
  induction ws with
  | nil => rfl
  | cons w ws ih =>
      have hone := hw w List.mem_cons_self ((ws.map (·.1)).flatten ++ s)
      rw [List.map_cons, List.flatten_cons, List.append_assoc, drain_item hs hone,
        ih fun v hv => hw v (List.mem_cons_of_mem _ hv)]
      rfl

/-- A buffer holding a whole stream of words drains to their items. -/
theorem drain_whole (ws : List (List β × ι)) (hc : ∀ w ∈ ws, Code next w.1 w.2) :
    drain next (ws.map (·.1)).flatten = (ws.map (·.2), []) := by
  have h := drain_words hs (fun w hw => (hc w hw).whole) []
  rwa [drain_nil hs, List.append_nil, List.append_nil] at h

/-- **A buffer holding the beginning of a stream of words drains to the whole words in it.**
    What is left is the beginning of the word the buffer was cut in. -/
theorem drain_stream (ws : List (List β × ι)) (hc : ∀ w ∈ ws, Code next w.1 w.2) (p q : List β)
    (h : p ++ q = (ws.map (·.1)).flatten) :
    ∃ done todo, ws = done ++ todo ∧ (drain next p).1 = done.map (·.2) ∧
      (drain next p).2 ++ q = (todo.map (·.1)).flatten ∧
      ((drain next p).2 = [] ∨
        ∃ w rest, todo = w :: rest ∧ (drain next p).2 <+: w.1 ∧ (drain next p).2 ≠ w.1) := by
  obtain ⟨done, todo, rest, rfl, rfl, hq, hin⟩ := words_cut ws p q h
  have hwait : next rest = none := by
    rcases hin with rfl | ⟨w, more, rfl, hpre, hne⟩
    · exact next_nil hs
    · exact (hc w (List.mem_append_right _ List.mem_cons_self)).waits rest hpre hne
  have hall : ∀ w ∈ done, ∀ rest, next (w.1 ++ rest) = some (w.2, rest) :=
    fun w hw => (hc w (List.mem_append_left _ hw)).whole
  have hd := drain_words hs hall rest
  rw [drain_wait hs hwait, List.append_nil] at hd
  exact ⟨done, todo, rfl, by rw [hd], by rw [hd]; exact hq, by rw [hd]; exact hin⟩

end Drain

end Lib.Framing
