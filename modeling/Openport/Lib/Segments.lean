/-
  File:      Openport/Lib/Segments.lean
  Subject:   A message behind its length, cut into parts and put together again.

  A library file: nothing here knows a particular program. The body is two
  elements that give the length and then the message; `Gathered` takes its parts
  one by one, reads the length off the first and collects the rest. Of any parts
  of a body, the first of them holding the length, the message is there with the
  last part and not before (`add_part`, `add_last`). `Woven` is one row of
  elements with others in between.
-/
import Mathlib.Data.List.Basic

namespace Lib.Segments

variable {β : Type}

/-! ## 1. Gathering -/

/-- What is there of a message: its length, once it is known, and the elements behind it. -/
structure Gathered (β : Type) where
  want : Option Nat := none
  acc : List β := []
  deriving DecidableEq, Repr

/-- A part arrives. The first one begins with the length; one too short for it is passed over. -/
def Gathered.add (lenOf : β → β → Nat) (g : Gathered β) (part : List β) : Gathered β :=
  match g.want, part with
  | some w, _ => ⟨some w, g.acc ++ part⟩
  | none, a :: b :: rest => ⟨some (lenOf a b), g.acc ++ rest⟩
  | none, _ => g

/-- The message, once all of it is there. -/
def Gathered.full (g : Gathered β) : Option (List β) :=
  match g.want with
  | some w => if w ≤ g.acc.length then some (g.acc.take w) else none
  | none => none

/-- So much of a message is there: nothing, or its length with a beginning of it, so that these
    elements are still to come. -/
inductive Holds (lenOf : β → β → Nat) (msg : List β) : Gathered β → List β → Prop where
  | start (a b : β) : lenOf a b = msg.length → Holds lenOf msg {} (a :: b :: msg)
  | open (acc rest : List β) : acc ++ rest = msg → Holds lenOf msg ⟨some msg.length, acc⟩ rest

section Holds

variable {lenOf : β → β → Nat} {msg rest part : List β} {g : Gathered β}

/-- The part in front of the rest may be added: it is not empty, and it holds the length if that
    is still to come. -/
def Fits (g : Gathered β) (part : List β) : Prop :=
  part ≠ [] ∧ (g.want = none → 2 ≤ part.length)

/-- A first part begins with two elements. -/
theorem Fits.first (hf : Fits g part) (h : g.want = none) : ∃ a b p, part = a :: b :: p := by
  have hlen := hf.2 h
  cases part with
  | nil => exact absurd hlen (by simp)
  | cons a part =>
      cases part with
      | nil => exact absurd hlen (by simp)
      | cons b p => exact ⟨a, b, p, rfl⟩

/-- Behind a part the length is known. -/
theorem Holds.add_eq (h : Holds lenOf msg g (part ++ rest)) (hf : Fits g part) :
    ∃ acc, g.add lenOf part = ⟨some msg.length, acc⟩ ∧ acc ++ rest = msg := by
  generalize he : part ++ rest = all at h
  cases h with
  | start a b hlen =>
      obtain ⟨x, y, p, rfl⟩ := hf.first rfl
      obtain ⟨rfl, he'⟩ := List.cons.inj (show x :: (y :: p ++ rest) = a :: b :: msg from he)
      obtain ⟨rfl, hmsg⟩ := List.cons.inj (show y :: (p ++ rest) = b :: msg from he')
      refine ⟨p, ?_, hmsg⟩
      show (⟨some (lenOf x y), [] ++ p⟩ : Gathered β) = _
      rw [hlen, List.nil_append]
  | «open» acc rest' hmsg =>
      subst he
      exact ⟨acc ++ part, rfl, by rw [List.append_assoc]; exact hmsg⟩

theorem Holds.add (h : Holds lenOf msg g (part ++ rest)) (hf : Fits g part) :
    Holds lenOf msg (g.add lenOf part) rest := by
  obtain ⟨acc, e, hmsg⟩ := h.add_eq hf
  rw [e]
  exact .open acc rest hmsg

/-- A message that still lacks an element is not full. -/
theorem Holds.not_full (h : Holds lenOf msg g rest) (hr : rest ≠ []) : g.full = none := by
  cases h with
  | start => rfl
  | «open» acc _ hmsg =>
      have hpos := List.length_pos_iff.mpr hr
      have hlen := congrArg List.length hmsg
      rw [List.length_append] at hlen
      show (if msg.length ≤ acc.length then _ else none) = none
      rw [if_neg (by omega)]

/-- A message that lacks none is full. -/
theorem Holds.full (h : Holds lenOf msg g []) : g.full = some msg := by
  cases h with
  | «open» acc _ hmsg =>
      rw [List.append_nil] at hmsg
      subst hmsg
      show (if acc.length ≤ acc.length then some (acc.take acc.length) else none) = _
      rw [if_pos (Nat.le_refl _), List.take_length]

/-- **A part that is not the last leaves the message open.** -/
theorem add_part (h : Holds lenOf msg g (part ++ rest)) (hf : Fits g part) (hr : rest ≠ []) :
    Holds lenOf msg (g.add lenOf part) rest ∧ (g.add lenOf part).full = none :=
  ⟨h.add hf, (h.add hf).not_full hr⟩

/-- **The last part completes it.** -/
theorem add_last (h : Holds lenOf msg g part) (hf : Fits g part) :
    (g.add lenOf part).full = some msg := by
  have h' : Holds lenOf msg g (part ++ []) := by rwa [List.append_nil]
  exact (h'.add hf).full

/-- A row of parts that may be added one after the other. -/
def Parts (g : Gathered β) (parts : List (List β)) : Prop :=
  (∀ p ∈ parts, p ≠ []) ∧ (g.want = none → ∀ p ∈ parts.head?, 2 ≤ p.length)

theorem Parts.head {parts : List (List β)} (h : Parts g (part :: parts)) : Fits g part :=
  ⟨h.1 part List.mem_cons_self, fun hw => h.2 hw part rfl⟩

/-- Behind the first of them they are parts again. -/
theorem Parts.tail {parts : List (List β)} (h : Parts g (part :: parts))
    (hg : Holds lenOf msg g (part ++ rest)) : Parts (g.add lenOf part) parts := by
  obtain ⟨acc, e, -⟩ := hg.add_eq h.head
  refine ⟨fun p hp => h.1 p (List.mem_cons_of_mem _ hp), ?_⟩
  rw [e]
  exact fun hw => (nomatch hw)

end Holds

/-! ## 2. One row between others -/

/-- One row in its order, with elements of another kind in between. -/
inductive Woven (other : β → Prop) : List β → List β → Prop where
  | nil : Woven other [] []
  | own {row all : List β} (x : β) : Woven other row all → Woven other (x :: row) (x :: all)
  | beside {row all : List β} {x : β} : other x → Woven other row all → Woven other row (x :: all)

/-- A row with nothing in between. -/
theorem Woven.refl (other : β → Prop) : ∀ row : List β, Woven other row row
  | [] => .nil
  | x :: row => .own x (Woven.refl other row)

/-- An element of the row that is of the other kind is one in between. -/
theorem Woven.skip {other : β → Prop} {x : β} (hx : other x) {row all : List β}
    (h : Woven other (x :: row) all) : Woven other row all := by
  generalize e : x :: row = whole at h
  induction h with
  | nil => cases e
  | own y h _ =>
      obtain ⟨rfl, rfl⟩ := List.cons.inj e
      exact .beside hx h
  | beside hy _ ih => exact .beside hy (ih e)

end Lib.Segments
