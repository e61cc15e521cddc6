/-
  File:      Openport/Device/Heard.lean
  Subject:   A command and the reader: on the channels a transaction does nothing
             but let arrive what arrives while it runs.

  `Exchange.heard` lists what that can be, by how far the transaction gets.
-/
import Openport.Device.Apart
import Openport.Device.Transaction

namespace Openport

/-! ## 1. What the reader goes by -/

/-- The two devices are one to the reader, but for the reply slot. -/
structure SameStream (d d' : OpDevice) : Prop where
  ch : d'.ch = d.ch
  accum : d'.accum = d.accum
  lost : d'.lost = d.lost

theorem SameStream.refl (d : OpDevice) : SameStream d d := ⟨rfl, rfl, rfl⟩

theorem SameStream.trans {d d' d'' : OpDevice} (h : SameStream d d') (h' : SameStream d' d'') :
    SameStream d d'' :=
  ⟨h'.ch.trans h.ch, h'.accum.trans h.accum, h'.lost.trans h.lost⟩

/-- What a frame does to the channels depends on them alone. -/
theorem absorbFrame_same {d d' : OpDevice} (h : SameStream d d') (r : OpReply) :
    SameStream (absorbFrame d r) (absorbFrame d' r) := by
  obtain ⟨hch, hacc, hlost⟩ := h
  unfold absorbFrame
  by_cases hr : r.channel < 10
  · rw [dif_pos hr, dif_pos hr]
    simp only
    rw [hch]
    split
    · refine ⟨?_, hacc, hlost⟩
      unfold OpDevice.setCh
      rw [hch]
    split
    · refine ⟨?_, hacc, hlost⟩
      unfold OpDevice.setCh
      rw [hch]
    · exact ⟨hch, hacc, hlost⟩
  · rw [dif_neg hr, dif_neg hr]
    exact ⟨hch, hacc, hlost⟩

theorem handOn_same {d d' : OpDevice} (h : SameStream d d') (x : Handed) :
    SameStream (handOn d x) (handOn d' x) := by
  cases x with
  | frame r => exact absorbFrame_same h r
  | reply r =>
      refine ⟨?_, ?_, ?_⟩
      · exact (stashReply_ch d' r).trans (h.ch.trans (stashReply_ch d r).symm)
      · exact (stashReply_accum d' r).trans (h.accum.trans (stashReply_accum d r).symm)
      · exact (stashReply_lost d' r).trans (h.lost.trans (stashReply_lost d r).symm)
  | desync n => exact h

theorem handAll_same (xs : List Handed) {d d' : OpDevice} (h : SameStream d d') :
    SameStream (xs.foldl handOn d) (xs.foldl handOn d') := by
  induction xs generalizing d d' with
  | nil => exact h
  | cons x xs ih => exact ih (handOn_same h x)

theorem arrive_same {d d' : OpDevice} (h : SameStream d d') (a : Arrival) :
    SameStream (arrive d a) (arrive d' a) := by
  cases a with
  | gone => exact ⟨h.ch, h.accum, rfl⟩
  | read tmp =>
      unfold arrive
      simp only
      rw [h.lost, h.accum]
      split
      · exact h
      · exact handAll_same _ ⟨h.ch, rfl, rfl⟩

/-- **To the reader two such devices stay one.** -/
theorem arrivals_same (as : List Arrival) {d d' : OpDevice} (h : SameStream d d') :
    SameStream (arrivals d as) (arrivals d' as) := by
  unfold arrivals
  induction as generalizing d d' with
  | nil => exact h
  | cons a as ih => exact ih (arrive_same h a)

theorem arrivals_append (d : OpDevice) (as bs : List Arrival) :
    arrivals d (as ++ bs) = arrivals (arrivals d as) bs := List.foldl_append

/-! ## 2. What a transaction lets arrive -/

/-- What may arrive while a transaction runs, by how far it gets: it is refused at once, it finds no
    session, it is written and not waited for, it is waited for. -/
def Exchange.heard (x : Exchange) : List (List Arrival) :=
  [[], x.before, x.before ++ x.early, x.before ++ (x.early ++ x.late)]

/-- The end of a wait. -/
theorem collect_same (d : OpDevice) : SameStream d (collect d).2.2 := by
  unfold collect
  split
  · exact ⟨rfl, rfl, rfl⟩
  split <;> exact ⟨rfl, rfl, rfl⟩

/-- What arrives from the claim of the slot on: until the write returns, and where it went well and
    is waited for until the wait ends. -/
theorem transact_heard (x : Exchange) (d : OpDevice) (line payload : Bytes) (seq : UInt32)
    (timeoutMs : UInt32) (wait : Bool) :
    SameStream (arrivals d (if x.written ≠ .ok ∨ (!wait) = true then x.early
      else x.early ++ x.late)) (transact x d line payload seq timeoutMs wait).2.2 := by
  have hclaim : SameStream d (claimSlot d wait seq (line.getD 2 0)) := ⟨rfl, rfl, rfl⟩
  have hearly := arrivals_same x.early hclaim
  unfold transact
  simp only
  split
  · exact ⟨hearly.ch, hearly.accum, hearly.lost⟩
  · have hlate := arrivals_same x.late hearly
    rw [arrivals_append]
    have hend := hlate.trans (collect_same _)
    exact ⟨hend.ch, hend.accum, hend.lost⟩

theorem numberLine_same (d : OpDevice) (line : Bytes) :
    SameStream d (numberLine d line).2.2 := by
  unfold numberLine
  split
  · exact ⟨rfl, rfl, rfl⟩
  · exact .refl _

/-- **A transaction does to the channels what arrives while it runs, and nothing else.** -/
theorem cmdExchange_heard (x : Exchange) (d : OpDevice) (line payload : Bytes) (timeoutMs : UInt32)
    (wait : Bool) : ∃ as ∈ x.heard,
      SameStream (arrivals d as) (cmdExchange x d line payload timeoutMs wait).2.2 := by
  unfold cmdExchange Exchange.heard
  split
  · exact ⟨[], List.mem_cons_self, .refl d⟩
  simp only
  split
  · exact ⟨x.before, by simp, .refl _⟩
  have hnum := numberLine_same (arrivals d x.before) line
  split
  · exact ⟨x.before, by simp, hnum⟩
  have hran := transact_heard x (numberLine (arrivals d x.before) line).2.2
    (numberLine (arrivals d x.before) line).1 payload
    (numberLine (arrivals d x.before) line).2.1 (if timeoutMs = 0 then 1000 else timeoutMs) wait
  split at hran
  · refine ⟨x.before ++ x.early, by simp, ?_⟩
    rw [arrivals_append]
    exact (arrivals_same x.early hnum).trans hran
  · refine ⟨x.before ++ (x.early ++ x.late), by simp, ?_⟩
    rw [arrivals_append]
    exact (arrivals_same (x.early ++ x.late) hnum).trans hran

/-! ## 3. One channel -/

/-- A frame does to a channel's record what `receive` does, or nothing. -/
theorem absorbFrame_receive (d : OpDevice) (i : Fin 10) (r : OpReply) :
    (absorbFrame d r).ch i = d.ch i ∨ (absorbFrame d r).ch i = (d.ch i).receive i r := by
  cases hc : concerns d i r with
  | false => exact Or.inl (absorbFrame_unseen hc)
  | true => exact Or.inr (absorbFrame_seen hc)

section OneChannel

variable {i : Fin 10} {P : OpChannel → Prop} (hP : ∀ c r, P c → P (c.receive i r))
include hP

theorem handOn_channel {d : OpDevice} (h : P (d.ch i)) (x : Handed) : P ((handOn d x).ch i) := by
  cases x with
  | frame r =>
      show P ((absorbFrame d r).ch i)
      rcases absorbFrame_receive d i r with e | e
      · rw [e]
        exact h
      · rw [e]
        exact hP _ _ h
  | reply r =>
      show P ((stashReply d r).ch i)
      rw [stashReply_ch]
      exact h
  | desync n => exact h

theorem handAll_channel (xs : List Handed) {d : OpDevice} (h : P (d.ch i)) :
    P ((xs.foldl handOn d).ch i) := by
  induction xs generalizing d with
  | nil => exact h
  | cons x xs ih => exact ih (handOn_channel hP h x)

theorem arrive_channel {d : OpDevice} (h : P (d.ch i)) (a : Arrival) : P ((arrive d a).ch i) := by
  cases a with
  | gone => exact h
  | read tmp =>
      unfold arrive
      simp only
      split
      · exact h
      · exact handAll_channel hP _ h

/-- **What no frame takes from a channel's record, no arrival takes from it.** -/
theorem arrivals_channel (as : List Arrival) {d : OpDevice} (h : P (d.ch i)) :
    P ((arrivals d as).ch i) := by
  unfold arrivals
  induction as generalizing d with
  | nil => exact h
  | cons a as ih => exact ih (arrive_channel hP h a)

end OneChannel

theorem receive_shut {i : Fin 10} {c : OpChannel} (h : c.isOpen = false) (r : OpReply) :
    c.receive i r = c := by
  unfold OpChannel.receive
  rw [if_neg (by rw [h]; exact Bool.false_ne_true)]

/-- A closed channel keeps its record, whatever arrives. -/
theorem arrivals_shut {d : OpDevice} {i : Fin 10} (h : (d.ch i).isOpen = false)
    (as : List Arrival) : (arrivals d as).ch i = d.ch i :=
  arrivals_channel (P := fun c => c = d.ch i)
    (fun c r e => by rw [receive_shut (by rw [e, h]), e]) as rfl

theorem receive_buffer (i : Fin 10) (c : OpChannel) (r : OpReply) :
    (c.receive i r).rq.isSome = c.rq.isSome := by
  have hafter : (c.afterFrame r).rq = c.rq := by
    unfold OpChannel.afterFrame
    split
    · rfl
    split <;> rfl
  unfold OpChannel.receive
  split
  · split
    · rw [absorbOpen_eq]
      cases c.frameOut r with
      | none => exact congrArg Option.isSome hafter
      | some m => exact (queuePush_buffer _ m).trans (congrArg Option.isSome hafter)
    · exact queuePush_buffer c _
  · rfl

end Openport
