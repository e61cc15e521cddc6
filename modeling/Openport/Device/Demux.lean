/-
  File:      Openport/Device/Demux.lean
  Subject:   The reader's byte stream: `consume_accum` and the append in `reader_main`
             (`src/op_device.c`), as far as they concern bytes.

  `consume_accum` hands a frame to `absorb_frame` and any other reply to
  `stash_reply`; neither touches the accumulator, so what is handed on, and
  what is left, is a function of the bytes alone.
-/
import Openport.Lib.Framing
import Openport.Proto.Reply

namespace Openport

open Lib.Framing

/-- Capacity of the reader's accumulator, `OP_ACCUM_CAP`. -/
def opAccumCap : Nat := opMsgMax + opFrameMax

/-- What one turn of the loop in `consume_accum` does with the buffer's first reply: a frame
    goes to `absorb_frame`, a reply to `stash_reply`, a desync skips bytes. -/
inductive Handed where
  | frame (r : OpReply) : Handed
  | reply (r : OpReply) : Handed
  | desync (skipped : Nat) : Handed
  deriving DecidableEq, Repr

/-- One turn of the loop in `consume_accum`; `none` is its `break`. -/
def consumeStep (buf : Bytes) : Option (Handed × Bytes) :=
  let p := opParse buf
  if p.1 = 0 then none
  else
    match p.2.kind with
    | .frame => some (.frame p.2, buf.drop p.1)
    | .junk =>
      let skip := opResyncOffset buf
      let n := if p.1 < skip then skip else p.1
      some (.desync n, buf.drop n)
    | _ => some (.reply p.2, buf.drop p.1)

/-- `consume_accum`: what is handed on, and the accumulator after it. -/
def consumeAccum (accum : Bytes) : List Handed × Bytes :=
  let r := drain consumeStep accum
  (r.1, if r.2.length = opAccumCap then [] else r.2)

/-- One read of `reader_main`: append as much as there is room for, then `consume_accum`. -/
def readerRead (accum tmp : Bytes) : List Handed × Bytes :=
  consumeAccum (accum ++ tmp.take (opAccumCap - accum.length))

/-- A sequence of reads. -/
def readerReads : Bytes → List Bytes → List Handed × Bytes
  | accum, [] => ([], accum)
  | accum, tmp :: reads =>
    let r := readerRead accum tmp
    let t := readerReads r.2 reads
    (r.1 ++ t.1, t.2)

/-- **A turn of the loop takes at least one byte.** -/
theorem consumeStep_shrinks : Shrinks consumeStep := by
  intro s i rest h
  have hne : s ≠ [] := by
    intro e
    rw [e] at h
    cases h
  have hlen : 0 < s.length := List.length_pos_iff.mpr hne
  have drop_lt : ∀ n, n ≠ 0 → (s.drop n).length < s.length := by
    intro n hn
    rw [List.length_drop]
    omega
  unfold consumeStep at h
  by_cases h0 : (opParse s).1 = 0
  · simp only [h0, if_true] at h
    cases h
  · simp only [h0, if_false] at h
    split at h
    · obtain ⟨-, rfl⟩ := Prod.mk.inj (Option.some.inj h)
      exact drop_lt _ h0
    · obtain ⟨-, rfl⟩ := Prod.mk.inj (Option.some.inj h)
      exact drop_lt _ (by split <;> omega)
    · obtain ⟨-, rfl⟩ := Prod.mk.inj (Option.some.inj h)
      exact drop_lt _ h0

theorem consumeStep_wait {buf : Bytes} (h : (opParse buf).1 = 0) : consumeStep buf = none := by
  unfold consumeStep
  rw [if_pos h]

end Openport
