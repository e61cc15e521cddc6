/-
  File:      Openport/Device/Reads.lean
  Subject:   A run of reads as one: what the reader hands on of all of them, on
             the device that waited at the start.

  What is handed on does not look at the accumulator, so the reads of a stream
  can be put together first (`arrivals_reads`) and its records handed on then.
-/
import Openport.Device.Room
import Openport.Device.Stream

namespace Openport

/-! ## 1. What is handed on does not look at the accumulator -/

theorem handOn_lost (d : OpDevice) (x : Handed) : (handOn d x).lost = d.lost := by
  cases x with
  | frame r =>
      obtain ⟨ch, e⟩ := absorbFrame_slot d r
      have h : (absorbFrame d r).lost = d.lost := by rw [e]
      exact h
  | reply r => exact stashReply_lost d r
  | desync n => rfl

theorem handAll_lost (xs : List Handed) (d : OpDevice) : (xs.foldl handOn d).lost = d.lost := by
  induction xs generalizing d with
  | nil => rfl
  | cons x xs ih => exact (ih (handOn d x)).trans (handOn_lost d x)

theorem stashReply_accumulated (d : OpDevice) (r : OpReply) (a : Bytes) :
    stashReply { d with accum := a } r = { stashReply d r with accum := a } := by
  have hc : claims { d with accum := a } r = claims d r := rfl
  have ht : stashText { d with accum := a } r = { stashText d r with accum := a } := by
    unfold stashText
    cases r.kind <;> cases r.text <;> rfl
  unfold stashReply
  rw [hc]
  by_cases h : claims d r = true
  · rw [if_pos h, if_pos h]
    simp only [ht]
    split
    · unfold stashRaw
      simp only
      split <;> rfl
    split
    · unfold stashKeys
      simp only
      split <;> rfl
    · rfl
  · rw [if_neg h, if_neg h]

theorem handOn_accumulated (d : OpDevice) (x : Handed) (a : Bytes) :
    handOn { d with accum := a } x = { handOn d x with accum := a } := by
  cases x with
  | desync n => rfl
  | frame r =>
      show absorbFrame { d with accum := a } r = { absorbFrame d r with accum := a }
      unfold absorbFrame
      by_cases h : r.channel < 10
      · rw [dif_pos h, dif_pos h]
        simp only
        split
        · rfl
        split
        · rfl
        · rfl
      · rw [dif_neg h, dif_neg h]
  | reply r => exact stashReply_accumulated d r a

theorem handAll_accumulated (xs : List Handed) (d : OpDevice) (a : Bytes) :
    xs.foldl handOn { d with accum := a } = { xs.foldl handOn d with accum := a } := by
  induction xs generalizing d with
  | nil => rfl
  | cons x xs ih =>
      show xs.foldl handOn (handOn { d with accum := a } x) = _
      rw [handOn_accumulated, ih]
      rfl

/-! ## 2. Reads put together -/

/-- **The reads of a stream hand on what the reader finds in all of them.** -/
theorem arrivals_reads (reads : List Bytes) {d : OpDevice} (h : d.lost = false) :
    arrivals d (reads.map .read) =
      { (readerReads d.accum reads).1.foldl handOn d with
        accum := (readerReads d.accum reads).2 } := by
  induction reads generalizing d with
  | nil => rfl
  | cons tmp reads ih =>
      have hstep : arrive d (.read tmp) =
          { (readerRead d.accum tmp).1.foldl handOn d
            with accum := (readerRead d.accum tmp).2 } := by
        rw [← handAll_accumulated]
        show (if d.lost = true then d else _) = _
        rw [h, if_neg Bool.false_ne_true]
      have hlost : (arrive d (.read tmp)).lost = false := by
        rw [hstep]
        exact (handAll_lost _ d).trans h
      have hacc : (arrive d (.read tmp)).accum = (readerRead d.accum tmp).2 := by rw [hstep]
      show arrivals (arrive d (.read tmp)) (reads.map .read) = _
      rw [ih hlost, hacc, hstep, handAll_accumulated]
      show _ = { ((readerRead d.accum tmp).1 ++
        (readerReads (readerRead d.accum tmp).2 reads).1).foldl handOn d with
          accum := (readerReads (readerRead d.accum tmp).2 reads).2 }
      rw [List.foldl_append]

/-- The bytes of some reads put together, in reads `op_read` may return: 1 to 1024 bytes each. -/
structure CutInto (reads : List Bytes) (bytes : Bytes) : Prop where
  flatten : reads.flatten = bytes
  sized : ∀ tmp ∈ reads, 1 ≤ tmp.length ∧ tmp.length ≤ 1024

/-- **The reads of some records, however cut, hand them on** to the device that waited. -/
theorem arrivals_records {d : OpDevice} (hl : d.lost = false) (ha : d.accum = [])
    (rs : List WireRecord) {reads : List Bytes} (h : CutInto reads (stream rs)) :
    arrivals d (reads.map .read) = (handedOn rs).foldl handOn d := by
  have hreads : readerReads [] reads = (handedOn rs, []) := by
    rw [readerReads_words reads (words rs) [] (words_code rs) (words_length rs)
      (fun t ht => (h.sized t ht).2) (Or.inl rfl)
      (by rw [List.nil_append, h.flatten, words_stream]), words_handed]
  rw [arrivals_reads reads hl, ha, hreads]
  have hacc : ((handedOn rs).foldl handOn d).accum = [] := (handAll_accum _ d).trans ha
  show { (handedOn rs).foldl handOn d with accum := [] } = (handedOn rs).foldl handOn d
  rw [← hacc]

end Openport
