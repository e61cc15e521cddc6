/-
  File:      Openport/Device/Steady.lean
  Subject:   What the reader leaves alone: a wakeup of the reader thread changes
             queues, reassemblies, the reply slot and `lost`, and nothing the entry
             points decide by.

  `Steady d d'` lists the fields an entry point can rely on across a wait;
  `arrivals_steady` is the only fact about the reader the proofs about entry
  points use.
-/
import Openport.Device.Session

namespace Openport

/-! ## 1. The relation -/

/-- What a wait leaves as it was. -/
structure Steady (d d' : OpDevice) : Prop where
  opened : d'.opened = d.opened
  seqNext : d'.seqNext = d.seqNext
  pinsGrounded : d'.pinsGrounded = d.pinsGrounded
  pinsPowered : d'.pinsPowered = d.pinsPowered
  fwVersion : d'.fwVersion = d.fwVersion
  log : d'.log = d.log
  isOpen : ∀ i, (d'.ch i).isOpen = (d.ch i).isOpen
  protocol : ∀ i, (d'.ch i).protocol = (d.ch i).protocol
  periodic : ∀ i, (d'.ch i).periodic = (d.ch i).periodic

theorem Steady.refl (d : OpDevice) : Steady d d :=
  ⟨rfl, rfl, rfl, rfl, rfl, rfl, fun _ => rfl, fun _ => rfl, fun _ => rfl⟩

theorem Steady.trans {d d' d'' : OpDevice} (h : Steady d d') (h' : Steady d' d'') : Steady d d'' :=
  ⟨h'.opened.trans h.opened, h'.seqNext.trans h.seqNext, h'.pinsGrounded.trans h.pinsGrounded,
    h'.pinsPowered.trans h.pinsPowered, h'.fwVersion.trans h.fwVersion, h'.log.trans h.log,
    fun i => (h'.isOpen i).trans (h.isOpen i), fun i => (h'.protocol i).trans (h.protocol i),
    fun i => (h'.periodic i).trans (h.periodic i)⟩

/-- Replacing a channel by one of the same connection. -/
theorem steady_setCh {d : OpDevice} {i : Fin 10} {c : OpChannel} (h1 : c.isOpen = (d.ch i).isOpen)
    (h2 : c.protocol = (d.ch i).protocol) (h3 : c.periodic = (d.ch i).periodic) :
    Steady d (d.setCh i c) := by
  refine ⟨rfl, rfl, rfl, rfl, rfl, rfl, ?_, ?_, ?_⟩
  · intro j
    by_cases e : j = i
    · rw [e, OpDevice.setCh_same, h1]
    · rw [OpDevice.setCh_other d c e]
  · intro j
    by_cases e : j = i
    · rw [e, OpDevice.setCh_same, h2]
    · rw [OpDevice.setCh_other d c e]
  · intro j
    by_cases e : j = i
    · rw [e, OpDevice.setCh_same, h3]
    · rw [OpDevice.setCh_other d c e]

/-- A change of the slot, the accumulator or `lost` alone. -/
theorem steady_of_eq {d d' : OpDevice} (h1 : d'.opened = d.opened) (h2 : d'.seqNext = d.seqNext)
    (h3 : d'.pinsGrounded = d.pinsGrounded) (h4 : d'.pinsPowered = d.pinsPowered)
    (h5 : d'.fwVersion = d.fwVersion) (h6 : d'.log = d.log) (h7 : d'.ch = d.ch) : Steady d d' :=
  ⟨h1, h2, h3, h4, h5, h6, fun i => by rw [h7], fun i => by rw [h7], fun i => by rw [h7]⟩

/-! ## 2. Frames -/

theorem queuePush_config (c : OpChannel) (m : PassThruMsg) : (queuePush c m).isOpen = c.isOpen ∧
    (queuePush c m).protocol = c.protocol ∧ (queuePush c m).periodic = c.periodic := by
  unfold queuePush
  cases queueRefuses c m with
  | true => exact ⟨rfl, rfl, rfl⟩
  | false => exact ⟨rfl, rfl, rfl⟩

theorem OpChannel.afterFrame_config (c : OpChannel) (r : OpReply) :
    (c.afterFrame r).isOpen = c.isOpen ∧ (c.afterFrame r).protocol = c.protocol ∧
      (c.afterFrame r).periodic = c.periodic := by
  unfold OpChannel.afterFrame
  split
  · exact ⟨rfl, rfl, rfl⟩
  split
  · exact ⟨rfl, rfl, rfl⟩
  · exact ⟨rfl, rfl, rfl⟩

theorem absorbOpen_config (c : OpChannel) (r : OpReply) : (absorbOpen c r).isOpen = c.isOpen ∧
    (absorbOpen c r).protocol = c.protocol ∧ (absorbOpen c r).periodic = c.periodic := by
  obtain ⟨h1, h2, h3⟩ := c.afterFrame_config r
  rw [absorbOpen_eq]
  cases c.frameOut r with
  | none => exact ⟨h1, h2, h3⟩
  | some m =>
      obtain ⟨g1, g2, g3⟩ := queuePush_config (c.afterFrame r) m
      exact ⟨g1.trans h1, g2.trans h2, g3.trans h3⟩

theorem absorbFrame_steady (d : OpDevice) (r : OpReply) : Steady d (absorbFrame d r) := by
  unfold absorbFrame
  by_cases h : r.channel < 10
  · rw [dif_pos h]
    simp only
    by_cases ho : (d.ch ⟨r.channel, h⟩).isOpen = true
    · rw [if_pos ho]
      obtain ⟨h1, h2, h3⟩ := absorbOpen_config (d.ch ⟨r.channel, h⟩) r
      exact steady_setCh h1 h2 h3
    rw [if_neg ho]
    by_cases he : r.channel = 5 ∧ hasBit r.status opStsLoopback = true ∧ (d.ch 6).isOpen = true
    · rw [if_pos he]
      obtain ⟨h1, h2, h3⟩ := queuePush_config (d.ch 6) (frameMsg can r
        (txMsgType ||| (if hasBit r.status opSts29Bit then can29BitId else 0)) false true)
      exact steady_setCh h1 h2 h3
    · rw [if_neg he]
      exact Steady.refl d
  · rw [dif_neg h]
    exact Steady.refl d

/-! ## 3. Replies -/

/-- What `stash_reply` touches is the slot. -/
theorem stashReply_slot (d : OpDevice) (r : OpReply) : ∃ reply text data valid,
    stashReply d r = { d with reply := reply, replyText := text, replyData := data,
                              replyValid := valid } := by
  have htext : ∃ reply text, stashText d r = { d with reply := reply, replyText := text } := by
    unfold stashText
    split
    · exact ⟨_, _, rfl⟩
    · exact ⟨_, _, rfl⟩
  obtain ⟨reply, text, ht⟩ := htext
  unfold stashReply
  split
  · simp only [ht]
    split
    · unfold stashRaw
      split
      · exact ⟨_, _, _, _, rfl⟩
      · exact ⟨_, _, _, _, rfl⟩
    split
    · unfold stashKeys
      simp only
      split
      · exact ⟨_, _, _, _, rfl⟩
      · exact ⟨_, _, _, _, rfl⟩
    · exact ⟨_, _, _, _, rfl⟩
  · exact ⟨_, _, _, _, rfl⟩

theorem stashReply_ch (d : OpDevice) (r : OpReply) : (stashReply d r).ch = d.ch := by
  obtain ⟨reply, text, data, valid, e⟩ := stashReply_slot d r
  rw [e]

theorem stashReply_accum (d : OpDevice) (r : OpReply) : (stashReply d r).accum = d.accum := by
  obtain ⟨reply, text, data, valid, e⟩ := stashReply_slot d r
  rw [e]

theorem stashReply_lost (d : OpDevice) (r : OpReply) : (stashReply d r).lost = d.lost := by
  obtain ⟨reply, text, data, valid, e⟩ := stashReply_slot d r
  rw [e]

theorem stashReply_steady (d : OpDevice) (r : OpReply) : Steady d (stashReply d r) := by
  obtain ⟨reply, text, data, valid, e⟩ := stashReply_slot d r
  rw [e]
  exact steady_of_eq rfl rfl rfl rfl rfl rfl rfl

/-! ## 4. Wakeups of the reader -/

theorem handOn_steady (d : OpDevice) (h : Handed) : Steady d (handOn d h) := by
  cases h with
  | frame r => exact absorbFrame_steady d r
  | reply r => exact stashReply_steady d r
  | desync n => exact Steady.refl d

theorem handAll_steady (hs : List Handed) (d : OpDevice) : Steady d (hs.foldl handOn d) := by
  induction hs generalizing d with
  | nil => exact Steady.refl d
  | cons h hs ih => exact (handOn_steady d h).trans (ih (handOn d h))

theorem arrive_steady (d : OpDevice) (a : Arrival) : Steady d (arrive d a) := by
  cases a with
  | read tmp =>
      show Steady d (if d.lost = true then d
        else (readerRead d.accum tmp).1.foldl handOn { d with accum := (readerRead d.accum tmp).2 })
      by_cases hl : d.lost = true
      · rw [if_pos hl]
        exact Steady.refl d
      · rw [if_neg hl]
        have h1 : Steady d { d with accum := (readerRead d.accum tmp).2 } :=
          steady_of_eq rfl rfl rfl rfl rfl rfl rfl
        exact h1.trans (handAll_steady _ _)
  | gone => exact steady_of_eq rfl rfl rfl rfl rfl rfl rfl

/-- **Whatever the reader does, the entry points' state is as it was.** -/
theorem arrivals_steady (d : OpDevice) (as : List Arrival) : Steady d (arrivals d as) := by
  induction as generalizing d with
  | nil => exact Steady.refl d
  | cons a as ih => exact (arrive_steady d a).trans (ih (arrive d a))

end Openport
