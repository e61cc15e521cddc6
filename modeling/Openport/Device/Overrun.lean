/-
  File:      Openport/Device/Overrun.lean
  Subject:   What a row of `queue_push` calls leaves in a queue that overruns.

  A message is tested against the room there is, so behind one that was refused a
  shorter one may be accepted: the queue is the beginning of what was offered
  exactly where that does not happen (`overrun_prefix`).
-/
import Openport.Device.QueueRuns

namespace Openport

open Lib.Ring Lib.BoundedFifo

/-! ## 1. The messages in a queue -/

/-- The next `n` messages `op_device_pop` takes. -/
def popAll : Nat → OpChannel → List PassThruMsg
  | 0, _ => []
  | n + 1, c => (queuePop c).1 :: popAll n (queuePop c).2

/-- The messages in a channel's queue, oldest first, as popping gives them. -/
def queued (c : OpChannel) : List PassThruMsg := popAll c.qcount c

/-- **Popping a queue empty gives every message in it.** -/
theorem queued_holds {c : OpChannel} {q : List PassThruMsg} (h : Holds c q) :
    queued c = q.map delivered := by
  unfold queued
  rw [h.count]
  induction q generalizing c with
  | nil => rfl
  | cons m q ih =>
      obtain ⟨hm, hq⟩ := holds_pop h
      show (queuePop c).1 :: popAll q.length (queuePop c).2 = _
      rw [hm, ih hq]
      rfl

/-- Messages that come back alike took the same room. -/
theorem delivered_cost {m p : PassThruMsg} (h : delivered m = delivered p) : cost m = cost p := by
  have hsize : (UInt32.ofNat m.size).toUInt64 = (UInt32.ofNat p.size).toUInt64 :=
    congrArg PassThruMsg.dataSize h
  have hnat := congrArg UInt64.toNat hsize
  rw [UInt32.toNat_toUInt64, UInt32.toNat_toUInt64, size_word, size_word] at hnat
  unfold cost
  rw [hnat]

/-! ## 2. A row of pushes -/

/-- **A row of pushes keeps each message there is room for when it comes.** -/
theorem holds_pushes {c : OpChannel} {q : List PassThruMsg} (h : Holds c q)
    (msgs : List PassThruMsg) :
    Holds (msgs.foldl queuePush c) (q ++ kept cost opRxqBytes (total cost q) msgs) := by
  induction msgs generalizing c q with
  | nil =>
      rw [kept, List.append_nil]
      exact h
  | cons m msgs ih =>
      show Holds (msgs.foldl queuePush (queuePush c m)) _
      by_cases hfit : total cost q + cost m ≤ opRxqBytes
      · have hr : queueRefuses c m = false :=
          Bool.eq_false_iff.mpr fun e => (queueRefuses_iff h m).mp e hfit
        have hnext := ih (holds_push h hr)
        rw [total_append, total_cons, total_nil, Nat.add_zero, List.append_assoc] at hnext
        rw [kept_cons_fits hfit]
        exact hnext
      · rw [queuePush_refused ((queueRefuses_iff h m).mpr hfit), kept_cons_full hfit]
        exact ih (h.congr rfl rfl rfl rfl rfl)

/-- What a queue that was empty holds behind a row of pushes. -/
theorem queued_pushes {c : OpChannel} (h : Holds c []) (msgs : List PassThruMsg) :
    queued (msgs.foldl queuePush c) = (kept cost opRxqBytes 0 msgs).map delivered := by
  have hall := holds_pushes h msgs
  rw [List.nil_append, total_nil] at hall
  exact queued_holds hall

/-- **After an overrun the queue is the beginning of what was offered exactly where, behind the
    first message there was no room for, every message is longer than the room left.** -/
theorem overrun_prefix {c : OpChannel} (h : Holds c []) (msgs : List PassThruMsg) :
    queued (msgs.foldl queuePush c) <+: msgs.map delivered ↔ Contiguous cost opRxqBytes 0 msgs := by
  rw [queued_pushes h]
  exact kept_prefix_iff (fun _ _ => delivered_cost) (Nat.zero_le _) msgs

theorem fullMsg_cost : cost fullMsg = 4152 := by decide

/-- The ring takes 252 of the largest messages, and has 2272 bytes left. -/
theorem kept_filled (rest : List PassThruMsg) (k used : Nat) (hk : used + k * 4152 = 1046304) :
    kept cost opRxqBytes used (List.replicate k fullMsg ++ rest) =
        List.replicate k fullMsg ++ kept cost opRxqBytes 1046304 rest ∧
      (Contiguous cost opRxqBytes used (List.replicate k fullMsg ++ rest) ↔
        Contiguous cost opRxqBytes 1046304 rest) := by
  have hf := fullMsg_cost
  have hcap : opRxqBytes = 1048576 := rfl
  induction k generalizing used with
  | zero =>
      obtain rfl : used = 1046304 := by omega
      exact ⟨rfl, Iff.rfl⟩
  | succ k ih =>
      obtain ⟨hkept, hiff⟩ := ih (used + cost fullMsg) (by omega)
      have hfits : used + cost fullMsg ≤ opRxqBytes := by omega
      refine ⟨?_, ?_⟩
      · rw [List.replicate_succ, List.cons_append, List.cons_append, kept_cons_fits hfits, hkept]
      · rw [List.replicate_succ, List.cons_append, contiguous_cons_fits hfits, hiff]

/-- 255 of the largest messages, into the empty queue: the last three are refused, and the queue is
    the first 252. -/
theorem overrun_prefix_sample :
    let msgs := List.replicate 252 fullMsg ++ [fullMsg, fullMsg, fullMsg]
    queued (msgs.foldl queuePush (sampleDevice.ch 6)) <+: msgs.map delivered ∧
      queued (msgs.foldl queuePush (sampleDevice.ch 6)) =
        List.replicate 252 (delivered fullMsg) := by
  have hstart : Holds (sampleDevice.ch 6) [] := (sim_start sampleDevice_start).holds
  have hf := fullMsg_cost
  have hcap : opRxqBytes = 1048576 := rfl
  have hno : ¬1046304 + cost fullMsg ≤ opRxqBytes := by omega
  obtain ⟨hkept, hiff⟩ := kept_filled [fullMsg, fullMsg, fullMsg] 252 0 (by decide)
  refine ⟨( overrun_prefix hstart _).mpr (hiff.mpr ?_), ?_⟩
  · refine (contiguous_cons_full (by omega) hno _).mpr fun y hy => ?_
    simp only [List.mem_cons, List.not_mem_nil, or_false, or_self] at hy
    rw [hy]
    exact hno
  · rw [queued_pushes hstart, hkept, kept_cons_full hno, kept_cons_full hno, kept_cons_full hno,
      kept, List.append_nil, List.map_replicate]

/-- **A short message is accepted behind a long one that was refused**: 253 of the largest
    messages and a message of one byte, offered to the empty queue. -/
theorem overrun_hole : ¬∀ (c : OpChannel) (msgs : List PassThruMsg), Holds c [] →
    queued (msgs.foldl queuePush c) <+: msgs.map delivered := by
  intro hall
  have hstart : Holds (sampleDevice.ch 6) [] := (sim_start sampleDevice_start).holds
  have hpre := hall (sampleDevice.ch 6) (List.replicate 252 fullMsg ++ [fullMsg, shortMsg]) hstart
  have hf := fullMsg_cost
  have hs : cost shortMsg = 25 := by decide
  have hcap : opRxqBytes = 1048576 := rfl
  rw [queued_pushes hstart, (kept_filled [fullMsg, shortMsg] 252 0 (by decide)).1,
    kept_cons_full (by omega), kept_cons_fits (by omega), List.map_append, List.map_append,
    List.prefix_append_right_inj] at hpre
  have he : delivered shortMsg = delivered fullMsg := (List.cons_prefix_cons.mp hpre).1
  exact absurd (delivered_cost he) (by decide)

end Openport
