/-
  File:      Openport/Device/Slot.lean
  Subject:   What the reply slot takes while a numbered command that is no K-line
             init waits: a reply that echoes its number, and nothing else.
-/
import Openport.Device.Steady

namespace Openport

/-! ## 1. What the slot takes -/

/-- A text reply as the caller of its numbered command gets it. -/
def matchedReply (r : OpReply) : OpReply :=
  { r with
    hasDetail := if r.kind = .error then decide (2 ≤ r.tail.length) else r.hasDetail
    detail := if r.kind = .error then
      (if 2 ≤ r.tail.length then r.tail.headD 0 else 0) else r.detail
    text := none, data := none }

/-- A reply that the waiting command may not claim changes nothing. -/
theorem stashReply_refused {d : OpDevice} {r : OpReply} (h : claims d r = false) :
    stashReply d r = d := by
  unfold stashReply
  rw [h]
  rfl

/-- Only a reply that echoes its number is claimed by a numbered command that is no init. -/
theorem claims_strict {d : OpDevice} {r : OpReply} (hs : d.seqPending ≠ 0) (hy : d.cmdVerb ≠ 0x79)
    (hw : d.cmdVerb ≠ 0x77) (h : claims d r = true) :
    r.kind ≠ .init ∧ r.kind ≠ .info ∧ r.echoed = some d.seqPending := by
  have hs' : (d.seqPending != 0) = true := bne_iff_ne.mpr hs
  have hy' : (d.cmdVerb != 0x79) = true := bne_iff_ne.mpr hy
  have hw' : (d.cmdVerb != 0x77) = true := bne_iff_ne.mpr hw
  unfold claims at h
  rw [hs', hy', hw'] at h
  simp only [Bool.and_true, Bool.true_and, Bool.and_eq_true, Bool.not_eq_true', beq_eq_false_iff_ne,
    ne_eq, Bool.and_eq_false_iff, Bool.or_eq_false_iff, bne_eq_false_iff_eq] at h
  obtain ⟨⟨-, hinit⟩, hrest⟩ := h
  rcases hrest with h1 | ⟨h1, h2⟩
  · exact absurd h1 hinit
  · exact ⟨hinit, h1, h2⟩

/-- A claimed text reply is put in the slot as its caller will get it. -/
theorem stashReply_claimed {d : OpDevice} {r : OpReply} (hs : d.seqPending ≠ 0)
    (h : claims d r = true)
    (hinit : r.kind ≠ .init) (hinfo : r.kind ≠ .info) :
    (stashReply d r).reply = matchedReply r ∧ (stashReply d r).replyValid = true := by
  have hs' : (d.seqPending != 0) = true := bne_iff_ne.mpr hs
  unfold stashReply
  rw [if_pos h]
  simp only [hinit, false_and, if_false]
  refine ⟨?_, trivial⟩
  unfold stashText
  simp only [hs', Bool.true_and]
  unfold matchedReply
  cases hk : r.kind with
  | init => exact absurd hk hinit
  | info => exact absurd hk hinfo
  | error => simp
  | incomplete | ok | pin | filter | config | frame | periodic | junk => simp

/-- A frame does not touch the slot. -/
theorem absorbFrame_slot (d : OpDevice) (r : OpReply) :
    ∃ ch, absorbFrame d r = { d with ch := ch } := by
  unfold absorbFrame
  by_cases h : r.channel < 10
  · rw [dif_pos h]
    simp only
    split
    · exact ⟨_, rfl⟩
    split
    · exact ⟨_, rfl⟩
    · exact ⟨_, rfl⟩
  · rw [dif_neg h]
    exact ⟨_, rfl⟩

/-! ## 2. The slot of a waiting command -/

/-- The slot was claimed with this number and verb, and a reply in it echoes the number. -/
structure OwnSlot (seq : UInt32) (verb : UInt8) (d : OpDevice) : Prop where
  pending : d.seqPending = seq
  verb : d.cmdVerb = verb
  own : d.replyValid = true →
    d.reply.kind ≠ .init ∧ d.reply.kind ≠ .info ∧ d.reply.echoed = some seq

section
variable {seq : UInt32} {verb : UInt8} (hs : seq ≠ 0) (hy : verb ≠ 0x79) (hw : verb ≠ 0x77)
include hs hy hw

theorem ownSlot_stashReply {d : OpDevice} (h : OwnSlot seq verb d) (r : OpReply) :
    OwnSlot seq verb (stashReply d r) := by
  cases hc : claims d r with
  | false =>
      rw [stashReply_refused hc]
      exact h
  | true =>
      obtain ⟨k1, k2, k3⟩ := claims_strict (h.pending ▸ hs) (h.verb ▸ hy) (h.verb ▸ hw) hc
      obtain ⟨hrep, -⟩ := stashReply_claimed (h.pending ▸ hs) hc k1 k2
      obtain ⟨reply, text, data, valid, e⟩ := stashReply_slot d r
      refine ⟨?_, ?_, ?_⟩
      · rw [e]
        exact h.pending
      · rw [e]
        exact h.verb
      · intro _
        rw [hrep]
        exact ⟨k1, k2, k3.trans (by rw [h.pending])⟩

theorem ownSlot_handOn {d : OpDevice} (h : OwnSlot seq verb d) (x : Handed) :
    OwnSlot seq verb (handOn d x) := by
  cases x with
  | frame r =>
      obtain ⟨ch, e⟩ := absorbFrame_slot d r
      show OwnSlot seq verb (absorbFrame d r)
      rw [e]
      exact ⟨h.pending, h.verb, h.own⟩
  | reply r => exact ownSlot_stashReply hs hy hw h r
  | desync n => exact h

theorem ownSlot_arrive {d : OpDevice} (h : OwnSlot seq verb d) (a : Arrival) :
    OwnSlot seq verb (arrive d a) := by
  cases a with
  | gone => exact ⟨h.pending, h.verb, h.own⟩
  | read tmp =>
      have hall : ∀ (xs : List Handed) (d : OpDevice), OwnSlot seq verb d →
          OwnSlot seq verb (xs.foldl handOn d) := by
        intro xs
        induction xs with
        | nil => exact fun _ hd => hd
        | cons x xs ih => exact fun d hd => ih _ (ownSlot_handOn hs hy hw hd x)
      show OwnSlot seq verb (if d.lost = true then d
        else (readerRead d.accum tmp).1.foldl handOn { d with accum := (readerRead d.accum tmp).2 })
      by_cases hl : d.lost = true
      · rw [if_pos hl]
        exact h
      · rw [if_neg hl]
        exact hall _ _ ⟨h.pending, h.verb, h.own⟩

/-- **Whatever arrives, only an answer to the command gets into its slot.** -/
theorem ownSlot_arrivals {d : OpDevice} (h : OwnSlot seq verb d) (as : List Arrival) :
    OwnSlot seq verb (arrivals d as) := by
  induction as generalizing d with
  | nil => exact h
  | cons a as ih => exact ih (ownSlot_arrive hs hy hw h a)

end

end Openport
