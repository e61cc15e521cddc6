/-
  File:      Openport/Api/Reported.lean
  Subject:   A loss of received bytes is reported: once a message was refused, the
             next `PassThruReadMsgs` that completes returns `ERR_BUFFER_OVERFLOW`.

  The read takes the count of refused messages at its end. Frames that arrive
  while it waits can only raise the count, unless they take it round to zero.
-/
import Openport.Device.Loss
import Openport.Api.Messages

namespace Openport

open Lib.Ring Lib.BoundedFifo

/-! ## 1. The count while a read waits -/

/-- If a frame's message is refused, the count of refused ones has room for it. -/
def FrameCounts (i : Fin 10) (d : OpDevice) (r : OpReply) : Prop :=
  ∀ p, ({ dev := d } : FrameRun).offer i r = some p → queueRefuses (d.ch i) p.msg = true →
    (d.ch i).dropped ≠ 0xFFFFFFFF

/-- What is handed on from a buffer is counted. -/
def HandedCount (i : Fin 10) : OpDevice → List Handed → Prop
  | _, [] => True
  | d, x :: xs => (∀ r, x = .frame r → FrameCounts i d r) ∧ HandedCount i (handOn d x) xs

/-- What a wakeup of the reader brings is counted. -/
def ArrivalCounts (i : Fin 10) (d : OpDevice) : Arrival → Prop
  | .gone => True
  | .read tmp => d.lost = false →
    HandedCount i { d with accum := (readerRead d.accum tmp).2 } (readerRead d.accum tmp).1

def ArrivalsCount (i : Fin 10) : OpDevice → List Arrival → Prop
  | _, [] => True
  | d, a :: as => ArrivalCounts i d a ∧ ArrivalsCount i (arrive d a) as

/-- What arrives in each turn of the read loop is counted. -/
def ReadCounts (env : CallEnv) (i : Fin 10) (want timeout : UInt64) :
    Nat → Nat → List PassThruMsg → OpDevice → Prop
  | 0, _, _, _ => True
  | fuel + 1, turn, got, d =>
    ArrivalsCount i d (env.wait turn) ∧
      let p := opDevicePop (arrivals d (env.wait turn)) i
      match p.1, p.2.1 with
      | .ok, some m => want.toNat ≤ got.length + 1 ∨
          ReadCounts env i want timeout fuel (turn + 1) (got ++ [m]) p.2.2
      | .timeout, _ => readWait timeout (elapsedMs (env.clock 0) (env.clock (turn + 1))) = 0 ∨
          ReadCounts env i want timeout fuel (turn + 1) got p.2.2
      | _, _ => True

section Count

variable {i : Fin 10} {d : OpDevice}

/-- A push never takes a count that has room back to zero. -/
theorem queuePush_count {c : OpChannel} {m : PassThruMsg}
    (h : queueRefuses c m = true → c.dropped ≠ 0xFFFFFFFF) (hd : c.dropped ≠ 0) :
    (queuePush c m).dropped ≠ 0 := by
  cases hr : queueRefuses c m with
  | true =>
      rw [queuePush_refused hr]
      intro e
      have hc := count_succ (h hr)
      have e' : (c.dropped + 1).toNat = 0 := congrArg UInt32.toNat e
      omega
  | false =>
      rw [queuePush_dropped hr]
      exact hd

theorem absorbFrame_count {r : OpReply} (hopen : (d.ch i).isOpen = true) (h : FrameCounts i d r)
    (hd : (d.ch i).dropped ≠ 0) : ((absorbFrame d r).ch i).dropped ≠ 0 := by
  have hch := absorbFrame_offer i { dev := d } r hopen
  have hring : (({ dev := d } : FrameRun).folded i r).rq = (d.ch i).rq ∧
      (({ dev := d } : FrameRun).folded i r).rqUsed = (d.ch i).rqUsed ∧
      (({ dev := d } : FrameRun).folded i r).dropped = (d.ch i).dropped := by
    unfold FrameRun.folded
    split
    · obtain ⟨r1, -, -, r4, -, r6⟩ := (d.ch i).afterFrame_ring r
      exact ⟨r1, r4, r6⟩
    · exact ⟨rfl, rfl, rfl⟩
  have hfold : (({ dev := d } : FrameRun).folded i r).dropped ≠ 0 := by
    rw [hring.2.2]
    exact hd
  cases ho : ({ dev := d } : FrameRun).offer i r with
  | none =>
      rw [ho] at hch
      rw [show (absorbFrame d r).ch i = ({ dev := d } : FrameRun).folded i r from hch]
      exact hfold
  | some p =>
      rw [ho] at hch
      rw [show (absorbFrame d r).ch i = queuePush (({ dev := d } : FrameRun).folded i r)
        p.msg from hch]
      refine queuePush_count (?_) hfold
      intro hr
      unfold queueRefuses at hr
      rw [hring.1, hring.2.1] at hr
      rw [hring.2.2]
      exact h p ho hr

theorem handOn_count {x : Handed} (hopen : (d.ch i).isOpen = true)
    (h : ∀ r, x = .frame r → FrameCounts i d r) (hd : (d.ch i).dropped ≠ 0) :
    ((handOn d x).ch i).dropped ≠ 0 := by
  cases x with
  | frame r => exact absorbFrame_count hopen (h r rfl) hd
  | reply r =>
      have hch : ((stashReply d r).ch i).dropped = (d.ch i).dropped := by rw [stashReply_ch]
      exact hch.trans_ne hd
  | desync n => exact hd

theorem handAll_count {xs : List Handed} (hopen : (d.ch i).isOpen = true)
    (h : HandedCount i d xs) (hd : (d.ch i).dropped ≠ 0) :
    ((xs.foldl handOn d).ch i).dropped ≠ 0 := by
  induction xs generalizing d with
  | nil => exact hd
  | cons x xs ih =>
      exact ih (((handOn_steady d x).isOpen i).trans hopen) h.2 (handOn_count hopen h.1 hd)

theorem arrive_count {a : Arrival} (hopen : (d.ch i).isOpen = true) (h : ArrivalCounts i d a)
    (hd : (d.ch i).dropped ≠ 0) : ((arrive d a).ch i).dropped ≠ 0 := by
  cases a with
  | gone => exact hd
  | read tmp =>
      unfold arrive
      simp only
      by_cases hl : d.lost = true
      · rw [if_pos hl]
        exact hd
      · rw [if_neg hl]
        exact handAll_count hopen (h (Bool.eq_false_iff.mpr hl)) hd

/-- **A count that is not zero is not zero after a wait**, if what arrives is counted. -/
theorem arrivals_count {as : List Arrival} (hopen : (d.ch i).isOpen = true)
    (h : ArrivalsCount i d as) (hd : (d.ch i).dropped ≠ 0) :
    ((arrivals d as).ch i).dropped ≠ 0 := by
  induction as generalizing d with
  | nil => exact hd
  | cons a as ih =>
      exact ih (((arrive_steady d a).isOpen i).trans hopen) h.2 (arrive_count hopen h.1 hd)

/-- A pop that finds a message or none leaves the count, on a device that is there. -/
theorem opDevicePop_count (d : OpDevice) (i : Fin 10) :
    ((opDevicePop d i).2.2.ch i).dropped = (d.ch i).dropped ∧
      ((opDevicePop d i).2.2.ch i).isOpen = (d.ch i).isOpen ∧
      (opDevicePop d i).2.2.opened = d.opened ∧
      ((opDevicePop d i).1 = .noDevice ∨ d.opened = true) := by
  unfold opDevicePop
  by_cases hgone : (!d.opened || d.lost) = true
  · rw [if_pos hgone]
    exact ⟨rfl, rfl, rfl, Or.inl rfl⟩
  have hop : d.opened = true := by
    cases ho : d.opened with
    | true => rfl
    | false =>
        rw [ho] at hgone
        exact absurd rfl hgone
  rw [if_neg hgone]
  by_cases hq : 0 < (d.ch i).qcount
  · rw [if_pos hq]
    simp only [OpDevice.setCh_same]
    exact ⟨rfl, rfl, rfl, Or.inr hop⟩
  · rw [if_neg hq]
    exact ⟨rfl, rfl, rfl, Or.inr hop⟩

end Count

/-! ## 2. The read -/

/-- **A read loop that runs to its end leaves a count that is not zero.** -/
theorem readLoop_count {env : CallEnv} {i : Fin 10} {want timeout : UInt64} {fuel turn : Nat}
    {got : List PassThruMsg} {d : OpDevice} {r : ReadLoop} (hopen : (d.ch i).isOpen = true)
    (hc : ReadCounts env i want timeout fuel turn got d) (hd : (d.ch i).dropped ≠ 0)
    (h : readLoop env i want timeout fuel turn got d = some r) (hclosed : r.closed = false) :
    (r.dev.ch i).dropped ≠ 0 ∧ r.dev.opened = true := by
  induction fuel generalizing turn got d with
  | zero => cases h
  | succ fuel ih =>
      obtain ⟨hwait, hnext⟩ := hc
      have ho : ((arrivals d (env.wait turn)).ch i).isOpen = true :=
        ((arrivals_steady d (env.wait turn)).isOpen i).trans hopen
      have hn := arrivals_count hopen hwait hd
      obtain ⟨p1, p2, p3, p4⟩ := opDevicePop_count (arrivals d (env.wait turn)) i
      rw [← p1] at hn
      rw [← p2] at ho
      unfold readLoop at h
      simp only at h hnext
      generalize hp : opDevicePop (arrivals d (env.wait turn)) i = p at h hnext hn ho p3 p4
      obtain ⟨st, m, d'⟩ := p
      -- a turn that ends the loop leaves the device as the pop left it
      have hend : ∀ g, (some ⟨g, false, d'⟩ : Option ReadLoop) = some r → st ≠ .noDevice →
          (r.dev.ch i).dropped ≠ 0 ∧ r.dev.opened = true := by
        intro g e hst
        cases e
        exact ⟨hn, p3.trans (p4.resolve_left hst)⟩
      have hstop : ∀ g, (some ⟨g, true, d'⟩ : Option ReadLoop) = some r →
          (r.dev.ch i).dropped ≠ 0 ∧ r.dev.opened = true := by
        intro g e
        cases e
        cases hclosed
      cases st with
      | ok =>
          cases m with
          | none => exact hstop _ h
          | some m =>
              simp only at h hnext
              by_cases hw : want.toNat ≤ got.length + 1
              · rw [if_pos hw] at h
                exact hend _ h (by decide)
              · rw [if_neg hw] at h
                exact ih ho (hnext.resolve_left hw) hn h
      | timeout =>
          simp only at h hnext
          by_cases hw : readWait timeout (elapsedMs (env.clock 0) (env.clock (turn + 1))) = 0
          · rw [if_pos hw] at h
            exact hend _ h (by decide)
          · rw [if_neg hw] at h
            exact ih ho (hnext.resolve_left hw) hn h
      | io | noDevice | access | massStorage | param | overflow | protocol | stalled =>
          exact hstop _ h

/-- **A read that completes reports the loss.** -/
theorem passThruReadMsgs_reports {fuel : Nat} {env : CallEnv} {s : Driver}
    {channelID want timeout : UInt64} {i : Fin 10} {r : Ret (List PassThruMsg)}
    (hch : channelOf s.dev channelID = some i) (hwant : want ≠ 0)
    (hd : (s.dev.ch i).dropped ≠ 0) (hc : ReadCounts env i want timeout fuel 0 [] s.dev)
    (h : passThruReadMsgs fuel env s channelID true (some want) timeout = some r)
    (h1 : r.code ≠ errDeviceNotConnected) (h2 : r.code ≠ errInvalidDeviceId) :
    r.code = errBufferOverflow := by
  unfold passThruReadMsgs at h
  simp only [Driver.errClear_dev, hch, hwant, if_false, Bool.not_true, Bool.false_and,
    Bool.false_eq_true] at h
  by_cases ho : s.dev.opened = true
  · have hno : ¬(!s.dev.opened) = true := by rw [ho]; exact Bool.false_ne_true
    rw [if_neg hno] at h
    obtain ⟨l, hl, rfl⟩ := Option.map_eq_some_iff.mp h
    cases hclosed : l.closed with
    | true =>
        -- the cable is lost or the device closed: the read did not complete
        unfold readEnd at h1 h2
        simp only [hclosed, if_true] at h1 h2
        by_cases hdev : l.dev.opened = true
        · rw [if_pos hdev] at h1
          exact absurd rfl h1
        · rw [if_neg hdev] at h2
          exact absurd rfl h2
    | false =>
        obtain ⟨hn, hop⟩ := readLoop_count (channelOf_some hch).1 hc hd hl hclosed
        have htake : 0 < (opDeviceTakeDropped l.dev i).1 := by
          unfold opDeviceTakeDropped
          rw [if_neg (by rw [hop]; exact Bool.false_ne_true)]
          exact UInt32.pos_iff_ne_zero.mpr hn
        unfold readEnd
        simp only [hclosed, Bool.false_eq_true, if_false]
        rw [if_pos htake]
        rfl
  · have hyes : (!s.dev.opened) = true := by
      rw [Bool.eq_false_iff.mpr ho]
      rfl
    rw [if_pos hyes] at h
    cases h
    exact absurd rfl h2

/-! ## 3. No received bytes are lost silently -/

/-- **Where the bytes of a run of frames are.** On an open channel that reassembles, with `g`
    under way and `q` queued, after a run of frames that loses no END, brings no frame there is
    no room left for in its message and refuses no message at a full count: the queue is `q` and
    the messages put behind it, each all that its frames carried; every other message is
    counted; and if there was one, the next `PassThruReadMsgs` for a message that completes
    returns `ERR_BUFFER_OVERFLOW`. -/
theorem frames_lost_loudly {i : Fin 10} {d : OpDevice} {g : Gathering} {q : List PassThruMsg}
    {rs : List OpReply} (hopen : (d.ch i).isOpen = true) (hbase : (d.ch i).base ≠ can)
    (hg : Underway (d.ch i) g) (hq : Holds (d.ch i) q)
    (hends : EndsKept i { dev := d, gathering := g } rs)
    (hmeet : FramesMeet i { dev := d, gathering := g } rs) :
    let s := ({ dev := d, gathering := g } : FrameRun).run i rs
    s.dev = rs.foldl absorbFrame d ∧ Holds (s.dev.ch i) (q ++ s.puts.map (·.msg)) ∧
      (∀ p ∈ s.puts, p.Intact) ∧
      (s.dev.ch i).dropped.toNat = (d.ch i).dropped.toNat + s.refused ∧
      (0 < s.refused → ∀ (fuel : Nat) (env : CallEnv) (drv : Driver)
        (channelID want timeout : UInt64) (r : Ret (List PassThruMsg)), drv.dev = s.dev →
        channelOf s.dev channelID = some i → want ≠ 0 →
        ReadCounts env i want timeout fuel 0 [] s.dev →
        passThruReadMsgs fuel env drv channelID true (some want) timeout = some r →
        r.code ≠ errDeviceNotConnected → r.code ≠ errInvalidDeviceId →
        r.code = errBufferOverflow) := by
  intro s
  have h0 : Accounted i q (d.ch i).dropped.toNat { dev := d, gathering := g } :=
    ⟨⟨hopen, hbase, hg⟩, by rw [List.map_nil, List.append_nil]; exact hq,
      fun p hp => absurd hp List.not_mem_nil, rfl⟩
  have h := accounted_run h0 hends hmeet
  refine ⟨FrameRun.run_dev i _ rs, h.holds, h.intact, h.counted, ?_⟩
  intro hlost fuel env drv channelID want timeout r hdev hch hwant hc hr h1 h2
  have hne : (s.dev.ch i).dropped ≠ 0 := by
    intro e
    have hcount := h.counted
    have e' : (s.dev.ch i).dropped.toNat = 0 := by rw [e]; rfl
    have hlost' : 0 < (({ dev := d, gathering := g } : FrameRun).run i rs).refused := hlost
    have e'' : ((({ dev := d, gathering := g } : FrameRun).run i rs).dev.ch i).dropped.toNat = 0 :=
      e'
    omega
  rw [← hdev] at hch hc hne
  exact passThruReadMsgs_reports hch hwant hne hc hr h1 h2

/-- The two frames of a message on a K-line, the second with END. -/
def kLineFrames : List OpReply :=
  [{ kind := .frame, channel := 3, data := some [0x83, 0xF1] },
    { kind := .frame, channel := 3, status := 0x40, data := some [0x11] }]

theorem frames_lost_loudly_sample :
    let s := ({ dev := kLineDevice } : FrameRun).run 3 kLineFrames
    (∀ p ∈ s.puts, p.Intact) ∧ (s.dev.ch 3).dropped.toNat = 0 + s.refused :=
  have h := @frames_lost_loudly 3 kLineDevice {} [] kLineFrames
    rfl (by decide) (underway_idle rfl fun _ => rfl)
    (holds_empty (c := kLineDevice.ch 3) (m := fun _ => 0) rfl rfl rfl rfl rfl)
    ⟨fun _ e => absurd e (by decide), fun _ e => absurd e (by decide), trivial⟩
    ⟨⟨fun _ _ => by decide, fun e => absurd rfl e, fun _ _ _ => by decide⟩,
      ⟨fun _ _ => by decide, fun e => absurd rfl e, fun _ _ _ => by decide⟩, trivial⟩
  ⟨h.2.2.1, h.2.2.2.1⟩

end Openport
