/-
  File:      Openport/Lib/Sending.lean
  Subject:   A loop that hands a buffer over piece by piece until all of it is
             taken or a turn ends it.

  A library file: nothing here knows a particular program. `Exact` is what a
  caller may read off the result; `exact_iff` says it holds exactly where every
  turn that ends the loop ends it with the right answer for what was taken.
-/
import Mathlib.Data.List.Basic

namespace Lib.Sending

variable {β σ : Type}

/-! ## 1. The loop -/

/-- A turn of the loop: some elements are taken and the loop goes on, it ends behind some, or it
    is still in the turn. -/
inductive Turn (σ : Type) where
  | go (n : Nat)
  | stop (e : σ) (n : Nat)
  | hang

/-- How a loop ended, if it did, and what was taken. -/
structure Sent (β σ : Type) where
  ended : Option σ
  taken : List β

/-- The result behind a piece that was taken first. -/
def Sent.after (piece : List β) (s : Sent β σ) : Sent β σ := { s with taken := piece ++ s.taken }

/-- What a turn makes of the loop behind it. -/
def Turn.run (buf : List β) (sent : Nat) (t : Turn σ) (next : Nat → Sent β σ) : Sent β σ :=
  match t with
  | .go n => (next (sent + n)).after ((buf.drop sent).take n)
  | .stop e n => ⟨some e, (buf.drop sent).take n⟩
  | .hang => ⟨none, []⟩

/-- The loop from element `sent` on; without a further turn it is still running. -/
def send (done : σ) (buf : List β) (sent : Nat) : List (Turn σ) → Sent β σ
  | [] => if sent < buf.length then ⟨none, []⟩ else ⟨some done, []⟩
  | t :: ts =>
    if sent < buf.length then t.run buf sent fun n => send done buf n ts else ⟨some done, []⟩

/-- How many elements the turns that go on take. -/
def total : List (Turn σ) → Nat
  | [] => 0
  | .go n :: ts => n + total ts
  | _ :: ts => total ts

/-- The turn goes on. -/
def Turn.Goes (t : Turn σ) : Prop := ∃ n, t = .go n

/-- What a caller may read off the result: what was taken is the front of the buffer, `done` says
    it is all of it, and `stalled` that it is nothing. -/
structure Exact (done stalled : σ) (buf : List β) (s : Sent β σ) : Prop where
  front : s.taken <+: buf
  whole : ∀ e, s.ended = some e → (e = done ↔ s.taken = buf)
  nothing : s.ended = some stalled → s.taken = []

/-- Every turn that ends the loop ends it with the right answer. -/
def Right (done stalled : σ) (len sent : Nat) (ts : List (Turn σ)) : Prop :=
  ∀ pre e n post, ts = pre ++ .stop e n :: post → (∀ t ∈ pre, Turn.Goes t) →
    sent + total pre < len →
    (e = done ↔ len ≤ sent + total pre + n) ∧ (e = stalled → sent + total pre + n = 0)

/-! ## 2. What was taken -/

section Loop

variable (done : σ) (buf : List β)

theorem send_done {sent : Nat} (h : ¬sent < buf.length) (ts : List (Turn σ)) :
    send done buf sent ts = ⟨some done, []⟩ := by
  cases ts with
  | nil => exact if_neg h
  | cons t ts => exact if_neg h

theorem send_nil {sent : Nat} (h : sent < buf.length) : send done buf sent [] = ⟨none, []⟩ :=
  if_pos h

theorem send_cons {sent : Nat} (h : sent < buf.length) (t : Turn σ) (ts : List (Turn σ)) :
    send done buf sent (t :: ts) = t.run buf sent fun n => send done buf n ts := if_pos h

theorem send_go {sent : Nat} (h : sent < buf.length) (n : Nat) (ts : List (Turn σ)) :
    send done buf sent (.go n :: ts) =
      (send done buf (sent + n) ts).after ((buf.drop sent).take n) := if_pos h

theorem send_stop {sent : Nat} (h : sent < buf.length) (e : σ) (n : Nat) (ts : List (Turn σ)) :
    send done buf sent (.stop e n :: ts) = ⟨some e, (buf.drop sent).take n⟩ := if_pos h

theorem send_hang {sent : Nat} (h : sent < buf.length) (ts : List (Turn σ)) :
    send done buf sent (.hang :: ts) = ⟨none, []⟩ := if_pos h

theorem drop_split (sent n : Nat) :
    buf.drop sent = (buf.drop sent).take n ++ buf.drop (sent + n) := by
  rw [← List.drop_drop, List.take_append_drop]

/-- The pieces taken are the front of what is left, none skipped and none twice. -/
theorem send_front (ts : List (Turn σ)) (sent : Nat) :
    (send done buf sent ts).taken <+: buf.drop sent := by
  induction ts generalizing sent with
  | nil =>
      by_cases h : sent < buf.length
      · rw [send_nil done buf h]
        exact List.nil_prefix
      · rw [send_done done buf h]
        exact List.nil_prefix
  | cons t ts ih =>
      by_cases h : sent < buf.length
      · cases t with
        | go n =>
            rw [send_go done buf h]
            show (buf.drop sent).take n ++ (send done buf (sent + n) ts).taken <+: _
            obtain ⟨u, hu⟩ := ih (sent + n)
            exact ⟨u, by rw [List.append_assoc, hu, ← drop_split]⟩
        | stop e n =>
            rw [send_stop done buf h]
            exact List.take_prefix n _
        | hang =>
            rw [send_hang done buf h]
            exact List.nil_prefix
      · rw [send_done done buf h]
        exact List.nil_prefix

end Loop

/-! ## 3. What the caller may read off -/

section Answer

variable {done stalled : σ} {len sent : Nat}

theorem right_done (h : ¬sent < len) (ts : List (Turn σ)) : Right done stalled len sent ts :=
  fun pre _ _ _ _ _ hlt => absurd (Nat.lt_of_le_of_lt (Nat.le_add_right sent (total pre)) hlt) h

theorem right_go (n : Nat) (ts : List (Turn σ)) :
    Right done stalled len sent (.go n :: ts) ↔ Right done stalled len (sent + n) ts := by
  refine ⟨?_, ?_⟩
  · intro h pre e k post hs hp hlt
    have hgo := h (.go n :: pre) e k post (by rw [hs]; rfl)
      (List.forall_mem_cons.mpr ⟨⟨n, rfl⟩, hp⟩)
      (by show sent + (n + total pre) < len; omega)
    rw [show total (.go n :: pre) = n + total pre from rfl, ← Nat.add_assoc] at hgo
    exact hgo
  · intro h pre e k post hs hp hlt
    cases pre with
    | nil => cases hs
    | cons t pre =>
        obtain ⟨rfl, rfl⟩ := List.cons.inj hs
        have hsum : sent + total (.go n :: pre) = sent + n + total pre := (Nat.add_assoc _ _ _).symm
        rw [hsum] at hlt ⊢
        exact h pre e k post rfl (List.forall_mem_cons.mp hp).2 hlt

theorem right_stop (h : sent < len) (e : σ) (n : Nat) (ts : List (Turn σ)) :
    Right done stalled len sent (.stop e n :: ts) ↔
      (e = done ↔ len ≤ sent + n) ∧ (e = stalled → sent + n = 0) := by
  refine ⟨fun hr => hr [] e n ts rfl (fun _ hm => absurd hm List.not_mem_nil) h,
    ?_⟩
  intro hr pre e' k post hs hp hlt
  cases pre with
  | nil =>
      obtain ⟨h1, -⟩ := List.cons.inj hs
      cases h1
      exact hr
  | cons t pre =>
      obtain ⟨h1, -⟩ := List.cons.inj hs
      obtain ⟨k', hk⟩ := (List.forall_mem_cons.mp hp).1
      rw [← h1] at hk
      cases hk

theorem right_hang (ts : List (Turn σ)) : Right done stalled len sent (.hang :: ts) := by
  intro pre e k post hs hp hlt
  cases pre with
  | nil => cases hs
  | cons t pre =>
      obtain ⟨h1, -⟩ := List.cons.inj hs
      obtain ⟨k', hk⟩ := (List.forall_mem_cons.mp hp).1
      rw [← h1] at hk
      cases hk

end Answer

section Result

variable {done stalled : σ} (buf : List β)

/-- The answer is right about what is left from `sent` on. -/
def ExactFrom (done stalled : σ) (sent : Nat) (s : Sent β σ) : Prop :=
  (∀ e, s.ended = some e → (e = done ↔ s.taken = buf.drop sent)) ∧
    (s.ended = some stalled → sent = 0 ∧ s.taken = [])

theorem exactFrom_running {sent : Nat} {s : Sent β σ} (h : s.ended = none) :
    ExactFrom buf done stalled sent s := by
  refine ⟨?_, ?_⟩
  · intro e he
    rw [h] at he
    cases he
  · intro he
    rw [h] at he
    cases he

theorem exactFrom_done {sent : Nat} (hne : done ≠ stalled) (h : ¬sent < buf.length) :
    ExactFrom buf done stalled sent ⟨some done, []⟩ := by
  refine ⟨?_, fun he => absurd (Option.some.inj he) hne⟩
  intro e he
  rw [← Option.some.inj he, List.drop_of_length_le (Nat.le_of_not_lt h)]
  exact ⟨fun _ => rfl, fun _ => rfl⟩

theorem exactFrom_go {sent n : Nat} (h : sent < buf.length) (s : Sent β σ) :
    ExactFrom buf done stalled sent (s.after ((buf.drop sent).take n)) ↔
      ExactFrom buf done stalled (sent + n) s := by
  have htaken : (s.after ((buf.drop sent).take n)).taken = (buf.drop sent).take n ++ s.taken := rfl
  have hwhole : (buf.drop sent).take n ++ s.taken = buf.drop sent ↔
      s.taken = buf.drop (sent + n) := by
    refine ⟨?_, fun e => by rw [e, ← drop_split]⟩
    intro e
    exact List.append_cancel_left (e.trans (drop_split buf sent n))
  have hnone : (sent = 0 ∧ (buf.drop sent).take n ++ s.taken = []) ↔
      sent + n = 0 ∧ s.taken = [] := by
    refine ⟨fun ⟨hz, e⟩ => ?_, fun ⟨hz, e⟩ => ⟨by omega, ?_⟩⟩
    · obtain ⟨hp, ht⟩ := List.append_eq_nil_iff.mp e
      have hl : ((buf.drop sent).take n).length = 0 := congrArg List.length hp
      rw [List.length_take, List.length_drop] at hl
      exact ⟨by omega, ht⟩
    · rw [e, show n = 0 by omega]
      rfl
  unfold ExactFrom
  rw [htaken]
  exact and_congr (forall_congr' fun e => imp_congr_right fun _ => iff_congr Iff.rfl hwhole)
    (imp_congr_right fun _ => hnone)

theorem exactFrom_stop {sent : Nat} (h : sent < buf.length) (e : σ) (n : Nat) :
    ExactFrom buf done stalled sent ⟨some e, (buf.drop sent).take n⟩ ↔
      (e = done ↔ buf.length ≤ sent + n) ∧ (e = stalled → sent + n = 0) := by
  have hwhole : (buf.drop sent).take n = buf.drop sent ↔ buf.length ≤ sent + n := by
    refine ⟨?_, fun hl => List.take_of_length_le (by rw [List.length_drop]; omega)⟩
    intro e
    have hl := congrArg List.length e
    rw [List.length_take, List.length_drop] at hl
    omega
  have hnone : (sent = 0 ∧ (buf.drop sent).take n = []) ↔ sent + n = 0 := by
    refine ⟨?_, fun hz => ⟨by omega, by rw [show n = 0 by omega]; rfl⟩⟩
    rintro ⟨hz, hp⟩
    have hl : ((buf.drop sent).take n).length = 0 := congrArg List.length hp
    rw [List.length_take, List.length_drop] at hl
    omega
  refine ⟨fun hx => ⟨?_, fun hs => ?_⟩, fun ⟨h1, h2⟩ => ⟨fun e' he => ?_, fun he => ?_⟩⟩
  · exact (hx.1 e rfl).trans hwhole
  · exact hnone.mp (hx.2 (congrArg some hs))
  · rw [← Option.some.inj he]
    exact h1.trans hwhole.symm
  · exact hnone.mpr (h2 (Option.some.inj he))

theorem exactFrom_iff (hne : done ≠ stalled) (ts : List (Turn σ)) (sent : Nat) :
    ExactFrom buf done stalled sent (send done buf sent ts) ↔
      Right done stalled buf.length sent ts := by
  induction ts generalizing sent with
  | nil =>
      by_cases h : sent < buf.length
      · rw [send_nil done buf h]
        refine iff_of_true (exactFrom_running buf rfl) ?_
        intro pre e n post hs
        exact absurd hs (by simp)
      · rw [send_done done buf h]
        exact iff_of_true (exactFrom_done buf hne h) (right_done h [])
  | cons t ts ih =>
      by_cases h : sent < buf.length
      · cases t with
        | go n => rw [send_go done buf h, exactFrom_go buf h, right_go, ih]
        | stop e n => rw [send_stop done buf h, exactFrom_stop buf h, right_stop h]
        | hang =>
            rw [send_hang done buf h]
            exact iff_of_true (exactFrom_running buf rfl) (right_hang ts)
      · rw [send_done done buf h]
        exact iff_of_true (exactFrom_done buf hne h) (right_done h _)

/-- **The result says what was taken exactly where every turn that ends the loop does.** -/
theorem exact_iff (hne : done ≠ stalled) (ts : List (Turn σ)) :
    Exact done stalled buf (send done buf 0 ts) ↔ Right done stalled buf.length 0 ts := by
  rw [← exactFrom_iff buf hne]
  refine ⟨fun h => ⟨h.whole, fun he => ⟨rfl, h.nothing he⟩⟩, fun h => ⟨?_, h.1, fun he => ?_⟩⟩
  · exact send_front done buf ts 0
  · exact (h.2 he).2

end Result

end Lib.Sending
