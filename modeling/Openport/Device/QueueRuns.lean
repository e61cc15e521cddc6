/-
  File:      Openport/Device/QueueRuns.lean
  Subject:   Runs of the queue operations on one channel of a device: the byte
             ring behaves as the bounded queue of messages it stands for.

  `QueueRun` is the device together with what was offered, accepted, popped and
  read from `dropped` since the last flush; `Sim` ties it to the books of
  `Lib.BoundedFifo`. The count of refused messages is 32 bits wide, so the tie
  holds as long as no message is refused while it is full (`Counts`).
-/
import Openport.Device.Queue
import Openport.Device.Reassembly

namespace Openport

open Lib.Ring Lib.BoundedFifo

/-! ## 1. Every message the reader queues fits the queue's header -/

theorem or_lt_32 {a b : UInt64} (ha : a.toNat < 2 ^ 32) (hb : b.toNat < 2 ^ 32) :
    (a ||| b).toNat < 2 ^ 32 := by
  rw [UInt64.toNat_or]
  exact Nat.or_lt_two_pow ha hb

theorem zero_lt_32 : (0 : UInt64).toNat < 2 ^ 32 := by decide

theorem wide_32 (v : UInt32) : v.toUInt64.toNat < 2 ^ 32 := by
  rw [UInt32.toNat_toUInt64]
  exact v.toNat_lt

theorem ite_lt_32 {p : Prop} [Decidable p] {a b : UInt64} (ha : a.toNat < 2 ^ 32)
    (hb : b.toNat < 2 ^ 32) : (if p then a else b).toNat < 2 ^ 32 := by
  by_cases h : p
  · rwa [if_pos h]
  · rwa [if_neg h]

theorem OpChannel.wide_lt (c : OpChannel) (r : OpReply) : (c.wide r).toNat < 2 ^ 32 :=
  ite_lt_32 (by decide) (by decide)

theorem OpChannel.ext_lt (c : OpChannel) (r : OpReply) : (c.ext r).toNat < 2 ^ 32 :=
  ite_lt_32 (by decide) (by decide)

/-- A length of at most `Data`'s, as a 64-bit number. -/
theorem toNat_dataSize {n : Nat} (h : n ≤ j2534MsgDataMax) : (UInt64.ofNat n).toNat = n := by
  have h' : n ≤ 4128 := h
  rw [UInt64.toNat_ofNat']
  omega

theorem frameMsg_fits {protocol status : UInt64} (hp : protocol.toNat < 2 ^ 32)
    (hs : status.toNat < 2 ^ 32) (r : OpReply) (ind keep : Bool) :
    (frameMsg protocol r status ind keep).Fits := by
  have hl : ((if keep then r.bytes else []).take j2534MsgDataMax).length ≤ j2534MsgDataMax :=
    List.length_take_le _ _
  have hl32 : (UInt64.ofNat ((if keep then r.bytes else []).take j2534MsgDataMax).length).toNat <
    2 ^ 32 := by
    rw [toNat_dataSize hl]
    exact Nat.lt_of_le_of_lt hl (by decide)
  refine ⟨hp, hs, zero_lt_32, wide_32 _, ite_lt_32 zero_lt_32 hl32, ?_⟩
  show (UInt64.ofNat _).toNat ≤ j2534MsgDataMax
  rw [toNat_dataSize hl]
  exact hl

theorem openPartial_fits {c : OpChannel} (h : c.partialMsg.Fits) : (openPartial c).Fits := by
  unfold openPartial
  by_cases ha : c.partialActive = true
  · rw [if_pos ha]
    exact h
  · rw [if_neg ha]
    exact ⟨wide_32 _, ite_lt_32 (by decide) zero_lt_32, zero_lt_32, zero_lt_32, zero_lt_32,
      Nat.zero_le _⟩

theorem extendPartial_dataSize {p : PassThruMsg} (h : p.dataSize.toNat ≤ j2534MsgDataMax)
    (timestamp : UInt32) (bits : UInt64) (bs : Bytes) :
    (extendPartial p timestamp bits bs).dataSize.toNat =
      p.dataSize.toNat + (bs.take (j2534MsgDataMax - p.dataSize.toNat)).length := by
  have hl : (bs.take (j2534MsgDataMax - p.dataSize.toNat)).length ≤
    j2534MsgDataMax - p.dataSize.toNat :=
    List.length_take_le _ _
  have hmax : j2534MsgDataMax = 4128 := rfl
  show (p.dataSize + UInt64.ofNat _).toNat = _
  rw [UInt64.toNat_add, toNat_dataSize (by omega)]
  omega

theorem extendPartial_fits {p : PassThruMsg} (h : p.Fits) (timestamp : UInt32) {bits : UInt64}
    (hb : bits.toNat < 2 ^ 32) (bs : Bytes) : (extendPartial p timestamp bits bs).Fits := by
  have hl : (bs.take (j2534MsgDataMax - p.dataSize.toNat)).length ≤
    j2534MsgDataMax - p.dataSize.toNat :=
    List.length_take_le _ _
  have hmax : j2534MsgDataMax = 4128 := rfl
  have hp := h.dataSize
  have hsz := extendPartial_dataSize h.dataSize timestamp bits bs
  have hsz' : (extendPartial p timestamp bits bs).dataSize.toNat ≤ j2534MsgDataMax := by omega
  refine ⟨h.protocolID, or_lt_32 h.rxStatus hb, h.txFlags, wide_32 _, ?_, hsz'⟩
  show (extendPartial p timestamp bits bs).dataSize.toNat < 2 ^ 32
  omega

theorem OpChannel.nextPartial_fits {c : OpChannel} (h : c.partialMsg.Fits) (r : OpReply) :
    (c.nextPartial r).Fits :=
  extendPartial_fits (openPartial_fits h) _
    (or_lt_32 (ite_lt_32 (by decide) (by decide)) (or_lt_32 (c.wide_lt r) (c.ext_lt r))) _

/-- A frame leaves a reassembly that fits. -/
theorem OpChannel.afterFrame_fits {c : OpChannel} (h : c.partialMsg.Fits) (r : OpReply) :
    (c.afterFrame r).partialMsg.Fits := by
  unfold OpChannel.afterFrame
  by_cases hs : c.isStart r = true
  · rw [if_pos hs]
    exact h
  rw [if_neg hs]
  by_cases hd : c.isData r = true
  · rw [if_pos hd]
    exact c.nextPartial_fits h r
  · rw [if_neg hd]
    exact h

/-- **The message a frame queues fits the queue's header.** -/
theorem OpChannel.frameOut_fits {c : OpChannel} (h : c.partialMsg.Fits) {r : OpReply}
    {m : PassThruMsg} (hm : c.frameOut r = some m) : m.Fits := by
  have hw := c.wide_lt r
  have he := c.ext_lt r
  unfold OpChannel.frameOut at hm
  simp only at hm
  split at hm
  · cases hm
    exact frameMsg_fits (wide_32 _) (or_lt_32 (or_lt_32 (by decide) hw) he) _ _ _
  split at hm
  · cases hm
    exact frameMsg_fits (wide_32 _) (or_lt_32 (ite_lt_32 (by decide) (by decide)) hw) _ _ _
  split at hm
  · split at hm
    · cases hm
      exact frameMsg_fits (wide_32 _) (by decide) _ _ _
    · cases hm
      exact frameMsg_fits (wide_32 _)
        (or_lt_32 (or_lt_32 (ite_lt_32 (by decide) (by decide)) hw) he) _ _ _
  split at hm
  · cases hm
    exact c.nextPartial_fits h r
  · cases hm

/-- The ring is not touched before the push. -/
theorem OpChannel.afterFrame_ring (c : OpChannel) (r : OpReply) :
    (c.afterFrame r).rq = c.rq ∧ (c.afterFrame r).rqHead = c.rqHead ∧
      (c.afterFrame r).rqTail = c.rqTail ∧ (c.afterFrame r).rqUsed = c.rqUsed ∧
      (c.afterFrame r).qcount = c.qcount ∧ (c.afterFrame r).dropped = c.dropped := by
  unfold OpChannel.afterFrame
  split
  · exact ⟨rfl, rfl, rfl, rfl, rfl, rfl⟩
  split
  · exact ⟨rfl, rfl, rfl, rfl, rfl, rfl⟩
  · exact ⟨rfl, rfl, rfl, rfl, rfl, rfl⟩

/-! ## 2. Runs -/

/-- What can happen to the queue of a channel of an open session. A wait of `op_device_pop`
    that a message ends is that message's arrival, then the pop. -/
inductive QueueOp where
  /-- `queue_push` -/
  | push (m : PassThruMsg)
  /-- `absorb_frame` of a frame for the channel -/
  | frame (r : OpReply)
  | pop
  | flush
  | close
  | reopen (mem : Option (Mem UInt8)) (protocol : UInt32)
  | takeDropped

/-- A device, and what happened to the queue of one of its channels since the last flush. -/
structure QueueRun where
  dev : OpDevice
  offered : List PassThruMsg := []
  accepted : List PassThruMsg := []
  popped : List PassThruMsg := []
  taken : Nat := 0

/-- The message an operation offers to the queue. -/
def QueueOp.offers (c : OpChannel) : QueueOp → Option PassThruMsg
  | .push m => some m
  | .frame r => if c.isOpen then c.frameOut r else none
  | _ => none

/-- A list with one more message, if there is one and the queue has taken it. -/
def noted (c : OpChannel) (ms : List PassThruMsg) (m : Option PassThruMsg) : List PassThruMsg :=
  match m with
  | none => ms
  | some m => if queueRefuses c m then ms else ms ++ [m]

/-- Enter an offered message into the books. -/
def QueueRun.offering (s : QueueRun) (i : Fin 10) (op : QueueOp) (d : OpDevice) : QueueRun :=
  { s with dev := d, offered := s.offered ++ (op.offers (s.dev.ch i)).toList
           accepted := noted (s.dev.ch i) s.accepted (op.offers (s.dev.ch i)) }

/-- One operation on channel `i`. -/
def QueueRun.step (i : Fin 10) (s : QueueRun) (op : QueueOp) : QueueRun :=
  match op with
  | .push m => s.offering i op (s.dev.setCh i (queuePush (s.dev.ch i) m))
  | .frame r => s.offering i op (absorbFrame s.dev { r with channel := i.val })
  | .pop =>
    let p := opDevicePop s.dev i
    { s with dev := p.2.2, popped := s.popped ++ p.2.1.toList }
  | .flush => { dev := opDeviceFlushChannel s.dev i }
  | .close => { dev := opDeviceCloseChannel s.dev i }
  | .reopen mem protocol => { dev := (opDeviceOpenChannel s.dev i mem protocol).2 }
  | .takeDropped =>
    let t := opDeviceTakeDropped s.dev i
    { s with dev := t.2, taken := s.taken + t.1.toNat }

def QueueRun.run (i : Fin 10) (s : QueueRun) (ops : List QueueOp) : QueueRun :=
  ops.foldl (QueueRun.step i) s

/-- The count of refused messages is not full when the operation's message is refused. -/
def Counts (c : OpChannel) (op : QueueOp) : Prop :=
  ∀ m, op.offers c = some m → queueRefuses c m = true → c.dropped ≠ 0xFFFFFFFF

/-- Every operation of a run is counted. -/
def Counted (i : Fin 10) : QueueRun → List QueueOp → Prop
  | _, [] => True
  | s, op :: ops => Counts (s.dev.ch i) op ∧ Counted i (s.step i op) ops

/-- An operation pushes a message its callers can build. -/
def QueueOp.Fits : QueueOp → Prop
  | .push m => m.Fits
  | _ => True

/-- What the books of a channel say about its queue. -/
structure QueueGood (i : Fin 10) (s : QueueRun) : Prop where
  /-- the popped messages are the accepted ones in order, and the rest are still queued -/
  fifo : ∃ gone queued, s.accepted = gone ++ queued ∧ List.Forall₂ SameMessage gone s.popped ∧
    (s.dev.ch i).rqUsed = (queued.map fun m => 24 + m.size).sum ∧
    (s.dev.ch i).qcount = queued.length
  counted : s.offered.length = s.accepted.length + s.taken + (s.dev.ch i).dropped.toNat
  conserved : s.offered.length =
    s.popped.length + (s.dev.ch i).qcount + s.taken + (s.dev.ch i).dropped.toNat
  bounded : (s.dev.ch i).rqUsed ≤ 1024 * 1024
  tail : (s.dev.ch i).rqTail = ((s.dev.ch i).rqHead + (s.dev.ch i).rqUsed) % (1024 * 1024)
  reassembly : (s.dev.ch i).partialMsg.dataSize.toNat ≤ 4128

/-- A channel of an open, not lost device whose queue buffer is allocated and empty, as opening
    the session or the channel leaves it. -/
structure QueueStart (i : Fin 10) (d : OpDevice) : Prop where
  opened : d.opened = true
  notLost : d.lost = false
  buffer : (d.ch i).rq.isSome = true
  head : (d.ch i).rqHead = 0
  tail : (d.ch i).rqTail = 0
  used : (d.ch i).rqUsed = 0
  count : (d.ch i).qcount = 0
  dropped : (d.ch i).dropped = 0
  reassembly : (d.ch i).partialMsg.Fits

/-! ## 3. The ring stands for the bounded queue -/

/-- The channel and the run's records agree with the books `b`. -/
structure Sim (i : Fin 10) (s : QueueRun) (b : Book PassThruMsg) : Prop where
  opened : s.dev.opened = true
  notLost : s.dev.lost = false
  holds : Holds (s.dev.ch i) b.queue
  fits : ∀ m ∈ b.queue, m.Fits
  offered : s.offered = b.offered
  accepted : s.accepted = b.accepted
  popped : List.Forall₂ SameMessage b.popped s.popped
  taken : s.taken = b.taken
  pending : (s.dev.ch i).dropped.toNat = b.pending
  reassembly : (s.dev.ch i).partialMsg.Fits

/-- The operation of the bounded queue an operation stands for. -/
def QueueOp.abstract (c : OpChannel) (op : QueueOp) : List (Op PassThruMsg) :=
  match op with
  | .pop => [.pop]
  | .flush | .close | .reopen _ _ => [.reset]
  | .takeDropped => [.take]
  | op => (op.offers c).toList.map .offer

theorem sim_start {i : Fin 10} {d : OpDevice} (h : QueueStart i d) : Sim i { dev := d } {} := by
  obtain ⟨m, hm⟩ := Option.isSome_iff_exists.mp h.buffer
  refine ⟨h.opened, h.notLost, holds_empty hm h.head h.tail h.used h.count, ?_, rfl, rfl,
    List.Forall₂.nil, rfl, ?_, h.reassembly⟩
  · intro m hm
    exact absurd hm List.not_mem_nil
  · rw [h.dropped]
    rfl

/-- A flush, a close and a reopening leave an empty queue on the same buffer. -/
theorem sim_reset {i : Fin 10} {s : QueueRun} {b : Book PassThruMsg} (h : Sim i s b)
    {d : OpDevice} (ho : d.opened = s.dev.opened) (hl : d.lost = s.dev.lost)
    (hrq : (d.ch i).rq = (s.dev.ch i).rq) (hhead : (d.ch i).rqHead = 0)
    (htail : (d.ch i).rqTail = 0)
    (hused : (d.ch i).rqUsed = 0) (hcount : (d.ch i).qcount = 0) (hdrop : (d.ch i).dropped = 0)
    (hpart : (d.ch i).partialMsg.Fits) : Sim i { dev := d } {} := by
  obtain ⟨m, hm, -⟩ := h.holds.buffer
  refine sim_start ⟨ho.trans h.opened, hl.trans h.notLost, ?_, hhead, htail, hused,
    hcount, hdrop, hpart⟩
  rw [hrq, hm]
  rfl

theorem PassThruMsg.zero_fits : ({} : PassThruMsg).Fits :=
  ⟨by decide, by decide, by decide, by decide, by decide, by decide⟩

/-- Offering a message: `c` is the channel with its reassembly moved on and the ring untouched. -/
theorem sim_offer {i : Fin 10} {s : QueueRun} {b : Book PassThruMsg} (h : Sim i s b)
    {d : OpDevice} {c : OpChannel} {op : QueueOp} (ho : d.opened = s.dev.opened)
    (hl : d.lost = s.dev.lost) (hch : d.ch i = queueOption c (op.offers (s.dev.ch i)))
    (h1 : c.rq = (s.dev.ch i).rq) (h2 : c.rqHead = (s.dev.ch i).rqHead)
    (h3 : c.rqTail = (s.dev.ch i).rqTail) (h4 : c.rqUsed = (s.dev.ch i).rqUsed)
    (h5 : c.qcount = (s.dev.ch i).qcount) (h6 : c.dropped = (s.dev.ch i).dropped)
    (hp : c.partialMsg.Fits) (hfits : ∀ m, op.offers (s.dev.ch i) = some m → m.Fits)
    (hcounts : Counts (s.dev.ch i) op) :
    Sim i (s.offering i op d)
      (b.run cost opRxqBytes ((op.offers (s.dev.ch i)).toList.map .offer)) := by
  have hc : Holds c b.queue := h.holds.congr h1 h2 h3 h4 h5
  unfold QueueRun.offering
  cases hm : op.offers (s.dev.ch i) with
  | none =>
      rw [hm] at hch
      refine ⟨ho.trans h.opened, hl.trans h.notLost, ?_, h.fits, ?_, h.accepted, h.popped,
        h.taken, ?_, ?_⟩
      · exact hch ▸ hc
      · exact (List.append_nil _).trans h.offered
      · show (d.ch i).dropped.toNat = b.pending
        rw [hch]
        exact (congrArg UInt32.toNat h6).trans h.pending
      · show (d.ch i).partialMsg.Fits
        rw [hch]
        exact hp
  | some m =>
      rw [hm] at hch
      have href : queueRefuses c m = queueRefuses (s.dev.ch i) m := by
        unfold queueRefuses
        rw [h1, h4]
      show Sim i { s with dev := d, offered := s.offered ++ [m],
                          accepted := if queueRefuses (s.dev.ch i) m then s.accepted
                            else s.accepted ++ [m] }
        (b.step cost opRxqBytes (.offer m))
      have hrefuse := queueRefuses_iff h.holds m
      cases hr : queueRefuses (s.dev.ch i) m with
      | true =>
          rw [step_refuse (hrefuse.mp hr)]
          have hq : d.ch i = { c with dropped := c.dropped + 1 } :=
            hch.trans (queuePush_refused (href.trans hr))
          have hd : (c.dropped + 1).toNat = b.pending + 1 := by
            have hne : (s.dev.ch i).dropped.toNat ≠ 4294967295 := fun e =>
              hcounts m hm hr (UInt32.toNat_inj.mp e)
            have hlt := (s.dev.ch i).dropped.toNat_lt
            rw [UInt32.toNat_add, h6, ← h.pending]
            show ((s.dev.ch i).dropped.toNat + 1) % 4294967296 = _
            omega
          refine ⟨ho.trans h.opened, hl.trans h.notLost, ?_, h.fits, ?_, h.accepted, h.popped,
            h.taken, ?_, ?_⟩
          · show Holds (d.ch i) b.queue
            rw [hq]
            exact hc.congr rfl rfl rfl rfl rfl
          · show s.offered ++ [m] = _
            rw [h.offered]
          · show (d.ch i).dropped.toNat = b.pending + 1
            rw [hq]
            exact hd
          · show (d.ch i).partialMsg.Fits
            rw [hq]
            exact hp
      | false =>
          have hroom : total cost b.queue + cost m ≤ opRxqBytes := by
            refine Classical.byContradiction ?_
            intro hn
            rw [hrefuse.mpr hn] at hr
            cases hr
          rw [step_offer hroom]
          have hq : d.ch i = queuePush c m := hch
          have hrc : queueRefuses c m = false := href.trans hr
          obtain ⟨mem, hb, -⟩ := hc.buffer
          refine ⟨ho.trans h.opened, hl.trans h.notLost, ?_, ?_, ?_, ?_, h.popped, h.taken, ?_, ?_⟩
          · show Holds (d.ch i) (b.queue ++ [m])
            rw [hq]
            exact holds_push hc hrc
          · intro x hx
            rcases List.mem_append.mp hx with hx | hx
            · exact h.fits x hx
            · rw [List.mem_singleton.mp hx]
              exact hfits m hm
          · show s.offered ++ [m] = _
            rw [h.offered]
          · show s.accepted ++ [m] = _
            rw [h.accepted]
          · show (d.ch i).dropped.toNat = b.pending
            rw [hq, queuePush_dropped hrc, h6]
            exact h.pending
          · show (d.ch i).partialMsg.Fits
            rw [hq, queuePush_accepted hb hrc]
            exact hp

/-- A frame for the channel, as `absorb_frame` files it. -/
theorem absorbFrame_own (d : OpDevice) (i : Fin 10) (r : OpReply) :
    ∃ d', absorbFrame d { r with channel := i.val } = d' ∧ d'.opened = d.opened ∧ d'.lost = d.lost ∧
      d'.ch i = if (d.ch i).isOpen then absorbOpen (d.ch i) { r with channel := i.val }
        else d.ch i := by
  refine ⟨_, rfl, ?_⟩
  unfold absorbFrame
  rw [dif_pos i.isLt]
  by_cases ho : (d.ch i).isOpen = true
  · rw [if_pos ho, if_pos ho]
    exact ⟨rfl, rfl, d.setCh_same i _⟩
  rw [if_neg ho, if_neg ho]
  by_cases h5 : i.val = 5 ∧ hasBit r.status opStsLoopback = true ∧ (d.ch 6).isOpen = true
  · -- the echo of an ISO 15765 transmit goes to channel 6, not to this one
    rw [if_pos h5]
    refine ⟨rfl, rfl, d.setCh_other _ ?_⟩
    intro e
    have := h5.1
    rw [e] at this
    cases this
  · rw [if_neg h5]
    exact ⟨rfl, rfl, rfl⟩

/-- The frame operation looks at the frame's channel nowhere. -/
theorem absorbOpen_channel (c : OpChannel) (r : OpReply) (n : Nat) :
    absorbOpen c { r with channel := n } = absorbOpen c r := rfl

/-- A pop takes the oldest message, where there is one. -/
theorem sim_pop {i : Fin 10} {s : QueueRun} {b : Book PassThruMsg} (h : Sim i s b) :
    Sim i (s.step i .pop) (b.step cost opRxqBytes .pop) := by
  have hcount := h.holds.count
  show Sim i { s with dev := (opDevicePop s.dev i).2.2,
                      popped := s.popped ++ (opDevicePop s.dev i).2.1.toList }
    (b.step cost opRxqBytes .pop)
  unfold opDevicePop
  rw [h.opened, h.notLost]
  cases hq : b.queue with
  | nil =>
      rw [hq] at hcount
      rw [step_pop_nil hq, if_neg (by decide), if_neg (by rw [hcount]; exact Nat.lt_irrefl 0)]
      refine ⟨h.opened, h.notLost, h.holds, h.fits, h.offered, h.accepted, ?_,
        h.taken, h.pending,
        h.reassembly⟩
      show List.Forall₂ SameMessage b.popped (s.popped ++ [])
      rw [List.append_nil]
      exact h.popped
  | cons m q =>
      rw [hq] at hcount
      have hpos : 0 < (s.dev.ch i).qcount := by
        rw [hcount]
        exact Nat.succ_pos _
      rw [step_pop_cons hq, if_neg (by decide), if_pos hpos]
      have hm : m.Fits := h.fits m (hq ▸ List.mem_cons_self)
      obtain ⟨hp, hrest⟩ := holds_pop (hq ▸ h.holds)
      obtain ⟨head, used, e⟩ := queuePop_ring (s.dev.ch i)
      refine ⟨h.opened, h.notLost, ?_, ?_, h.offered, h.accepted, ?_, h.taken, ?_, ?_⟩
      · show Holds ((s.dev.setCh i (queuePop (s.dev.ch i)).2).ch i) q
        rw [OpDevice.setCh_same]
        exact hrest
      · exact fun x hx => h.fits x (hq ▸ List.mem_cons_of_mem m hx)
      · show List.Forall₂ SameMessage (b.popped ++ [m])
          (s.popped ++ [(queuePop (s.dev.ch i)).1])
        rw [hp]
        exact List.rel_append h.popped (List.Forall₂.cons (delivered_same hm) List.Forall₂.nil)
      · show ((s.dev.setCh i (queuePop (s.dev.ch i)).2).ch i).dropped.toNat = b.pending
        rw [OpDevice.setCh_same, e]
        exact h.pending
      · show ((s.dev.setCh i (queuePop (s.dev.ch i)).2).ch i).partialMsg.Fits
        rw [OpDevice.setCh_same, e]
        exact h.reassembly

/-- Taking the count of the refused messages starts it anew. -/
theorem sim_take {i : Fin 10} {s : QueueRun} {b : Book PassThruMsg} (h : Sim i s b) :
    Sim i (s.step i .takeDropped) (b.step cost opRxqBytes .take) := by
  show Sim i { s with dev := (opDeviceTakeDropped s.dev i).2,
                      taken := s.taken + (opDeviceTakeDropped s.dev i).1.toNat }
    (b.step cost opRxqBytes .take)
  unfold opDeviceTakeDropped
  rw [h.opened, if_neg (by decide)]
  refine ⟨h.opened, h.notLost, ?_, h.fits, h.offered, h.accepted, h.popped, ?_, ?_, ?_⟩
  · show Holds ((s.dev.setCh i _).ch i) b.queue
    rw [OpDevice.setCh_same]
    exact h.holds.congr rfl rfl rfl rfl rfl
  · show s.taken + (s.dev.ch i).dropped.toNat = b.taken + b.pending
    rw [h.taken, h.pending]
  · show ((s.dev.setCh i _).ch i).dropped.toNat = 0
    rw [OpDevice.setCh_same]
    rfl
  · show ((s.dev.setCh i _).ch i).partialMsg.Fits
    rw [OpDevice.setCh_same]
    exact h.reassembly

/-- **One operation on the ring is the operation on the bounded queue.** -/
theorem sim_step {i : Fin 10} {s : QueueRun} {b : Book PassThruMsg} (h : Sim i s b) (op : QueueOp)
    (hfit : op.Fits) (hcounts : Counts (s.dev.ch i) op) :
    Sim i (s.step i op) (b.run cost opRxqBytes (op.abstract (s.dev.ch i))) := by
  cases op with
  | push m =>
      refine sim_offer h rfl rfl (s.dev.setCh_same i _) rfl rfl rfl rfl rfl rfl
        h.reassembly ?_ hcounts
      intro m' e
      cases e
      exact hfit
  | frame r =>
      obtain ⟨d', hd, ho, hl, hch⟩ := absorbFrame_own s.dev i r
      rw [absorbOpen_channel] at hch
      show Sim i (s.offering i (.frame r) (absorbFrame s.dev { r with channel := i.val })) _
      rw [hd]
      by_cases hopen : (s.dev.ch i).isOpen = true
      · have hoff : (QueueOp.frame r).offers (s.dev.ch i) = (s.dev.ch i).frameOut r := if_pos hopen
        obtain ⟨h1, h2, h3, h4, h5, h6⟩ := (s.dev.ch i).afterFrame_ring r
        refine sim_offer h ho hl ?_ h1 h2 h3 h4 h5 h6
          ((s.dev.ch i).afterFrame_fits h.reassembly r) ?_ hcounts
        · rw [hch, if_pos hopen, absorbOpen_eq, hoff]
        · intro m e
          exact (s.dev.ch i).frameOut_fits h.reassembly (hoff ▸ e)
      · have hoff : (QueueOp.frame r).offers (s.dev.ch i) = none := if_neg hopen
        refine sim_offer (c := s.dev.ch i) h ho hl ?_ rfl rfl rfl rfl rfl rfl
          h.reassembly ?_ hcounts
        · rw [hch, if_neg hopen, hoff]
          rfl
        · intro m e
          rw [hoff] at e
          cases e
  | pop => exact sim_pop h
  | flush =>
      refine sim_reset h rfl rfl ?_ ?_ ?_ ?_ ?_ ?_ ?_ <;>
        simp only [opDeviceFlushChannel, OpDevice.setCh_same, flushLocked]
      exact h.reassembly
  | close =>
      refine sim_reset h rfl rfl ?_ ?_ ?_ ?_ ?_ ?_ ?_ <;>
        simp only [opDeviceCloseChannel, OpDevice.setCh_same, closeChannel, flushLocked]
      exact h.reassembly
  | reopen mem protocol =>
      obtain ⟨m, hm, -⟩ := h.holds.buffer
      have e : openChannel (s.dev.ch i) mem protocol =
          { rq := some m, isOpen := true, protocol := protocol } := by
        unfold openChannel
        rw [hm]
        rfl
      refine sim_reset h rfl rfl ?_ ?_ ?_ ?_ ?_ ?_ ?_ <;>
        simp only [opDeviceOpenChannel, OpDevice.setCh_same, e, hm]
      exact PassThruMsg.zero_fits
  | takeDropped => exact sim_take h

/-! ## 4. The queue is a bounded queue of messages -/

/-- **A run of the ring is a run of the bounded queue, and its books balance.** -/
theorem sim_run {i : Fin 10} (ops : List QueueOp) {s : QueueRun} {b : Book PassThruMsg}
    (h : Sim i s b) (hb : b.Balanced cost opRxqBytes) (hfit : ∀ op ∈ ops, op.Fits)
    (hcounted : Counted i s ops) :
    ∃ b', Sim i (s.run i ops) b' ∧ b'.Balanced cost opRxqBytes := by
  induction ops generalizing s b with
  | nil => exact ⟨b, h, hb⟩
  | cons op ops ih =>
      exact ih (sim_step h op (hfit op List.mem_cons_self) hcounted.1)
        (balanced_run _ hb) (fun o ho => hfit o (List.mem_cons_of_mem _ ho)) hcounted.2

/-- Balanced books are good ones. -/
theorem sim_good {i : Fin 10} {s : QueueRun} {b : Book PassThruMsg} (h : Sim i s b)
    (hb : b.Balanced cost opRxqBytes) : QueueGood i s := by
  have hcount := h.holds.count
  have hconserved := hb.conserved
  have hpopped := h.popped.length_eq
  have haccepted : b.accepted.length = b.popped.length + b.queue.length := by
    rw [hb.fifo, List.length_append]
  refine ⟨⟨b.popped, b.queue, h.accepted.trans hb.fifo, h.popped, h.holds.used, hcount⟩, ?_, ?_,
    h.holds.fits, h.holds.tail, h.reassembly.dataSize⟩
  · rw [h.offered, h.accepted, h.taken, h.pending]
    omega
  · rw [h.offered, h.taken, h.pending, hcount]
    omega

/-- **The ring of a channel is a bounded first-in first-out queue of messages.** In every state a
    run reaches whose refused messages are all counted, the popped messages are the accepted
    ones in order, nothing is unaccounted for, and the ring's counters agree. -/
theorem queueRun_good (i : Fin 10) (d : OpDevice) (ops : List QueueOp) (hstart : QueueStart i d)
    (hfit : ∀ op ∈ ops, op.Fits) (hcounted : Counted i { dev := d } ops) :
    QueueGood i (({ dev := d } : QueueRun).run i ops) := by
  obtain ⟨b, hs, hb⟩ := sim_run ops (sim_start hstart) balanced_new hfit hcounted
  exact sim_good hs hb

/-- A device with ISO 15765 open on channel 6 and an allocated, empty queue. -/
def sampleDevice : OpDevice :=
  { opened := true
    ch := fun i =>
      if i = 6 then { isOpen := true, protocol := 6, rq := some fun _ => 0 } else {} }

theorem sampleDevice_start : QueueStart 6 sampleDevice :=
  ⟨rfl, rfl, rfl, rfl, rfl, rfl, rfl, rfl, PassThruMsg.zero_fits⟩

/-- The largest message there is. -/
def fullMsg : PassThruMsg := { protocolID := 6, dataSize := 4128, extraDataIndex := 4128 }

theorem fullMsg_fits : fullMsg.Fits :=
  ⟨by decide, by decide, by decide, by decide, by decide, by decide⟩

/-- A message of one byte. -/
def shortMsg : PassThruMsg := { protocolID := 6, dataSize := 1, extraDataIndex := 1 }

theorem shortMsg_fits : shortMsg.Fits :=
  ⟨by decide, by decide, by decide, by decide, by decide, by decide⟩

/-- The count of refused messages is never full. -/
def belowFull (i : Fin 10) : QueueRun → List QueueOp → Bool
  | _, [] => true
  | s, op :: ops => (s.dev.ch i).dropped != 0xFFFFFFFF && belowFull i (s.step i op) ops

theorem counted_belowFull {i : Fin 10} {s : QueueRun} {ops : List QueueOp}
    (h : belowFull i s ops = true) : Counted i s ops := by
  induction ops generalizing s with
  | nil => trivial
  | cons op ops ih =>
      obtain ⟨hhere, hrest⟩ := Bool.and_eq_true_iff.mp h
      exact ⟨fun _ _ _ => bne_iff_ne.mp hhere, ih hrest⟩

/-- 253 of the largest messages, of which the last is refused; two are popped, and one more goes
    over the end of the ring; the loss is reported, one more is popped, and a short one comes. -/
def sampleOps : List QueueOp :=
  List.replicate 253 (.push fullMsg) ++
    [.pop, .pop, .push fullMsg, .takeDropped, .pop, .push shortMsg]

/-- The books are good, and the ring's tail has come round. -/
theorem queueRun_good_sample : QueueGood 6 (({ dev := sampleDevice } : QueueRun).run 6 sampleOps) ∧
    let c := (({ dev := sampleDevice } : QueueRun).run 6 sampleOps).dev.ch 6
    c.rqHead = 3 * 4152 ∧ c.rqTail = 253 * 4152 + 25 - 1024 * 1024 ∧ c.qcount = 251 := by
  refine ⟨queueRun_good 6 sampleDevice _ sampleDevice_start ?_ ?_, by decide +kernel⟩
  · intro op hop
    rcases List.mem_append.mp hop with hop | hop
    · rw [List.eq_of_mem_replicate hop]
      exact fullMsg_fits
    · simp only [List.mem_cons, List.not_mem_nil, or_false] at hop
      rcases hop with rfl | rfl | rfl | rfl | rfl | rfl
      · trivial
      · trivial
      · exact fullMsg_fits
      · trivial
      · trivial
      · exact shortMsg_fits
  · exact counted_belowFull (by decide +kernel)

/-! ## 5. Four thousand million messages nobody asked about -/

/-- Pushing a refused message again and again moves the 32-bit count and nothing else. -/
theorem run_refused {i : Fin 10} {s : QueueRun} {m : PassThruMsg}
    (hr : queueRefuses (s.dev.ch i) m = true) (n : Nat) :
    let s' := s.run i (List.replicate n (.push m))
    s'.offered.length = s.offered.length + n ∧ s'.popped = s.popped ∧ s'.taken = s.taken ∧
      (s'.dev.ch i) = { s.dev.ch i with dropped := (s.dev.ch i).dropped + UInt32.ofNat n } := by
  induction n generalizing s with
  | zero =>
      refine ⟨rfl, rfl, rfl, ?_⟩
      show s.dev.ch i = { s.dev.ch i with dropped := (s.dev.ch i).dropped + 0 }
      rw [UInt32.add_zero]
  | succ n ih =>
      have hch : (s.step i (.push m)).dev.ch i =
        { s.dev.ch i with dropped := (s.dev.ch i).dropped + 1 } := by
        show ((s.dev.setCh i (queuePush (s.dev.ch i) m)).ch i) = _
        rw [OpDevice.setCh_same, queuePush_refused hr]
      have hr' : queueRefuses ((s.step i (.push m)).dev.ch i) m = true := by
        rw [hch]
        exact hr
      obtain ⟨h1, h2, h3, h4⟩ := ih hr'
      refine ⟨?_, h2, h3, ?_⟩
      · show ((s.step i (.push m)).run i (List.replicate n (.push m))).offered.length = _
        rw [h1]
        show (s.offered ++ [m]).length + n = _
        rw [List.length_append, List.length_singleton]
        omega
      · show ((s.step i (.push m)).run i (List.replicate n (.push m))).dev.ch i = _
        rw [h4, hch]
        have e : (s.dev.ch i).dropped + 1 + UInt32.ofNat n =
            (s.dev.ch i).dropped + UInt32.ofNat (n + 1) := by
          rw [UInt32.ofNat_add, UInt32.add_assoc, UInt32.add_comm (UInt32.ofNat n)]
          rfl
        rw [e]

/-- What `k` of the largest messages take. -/
theorem total_replicate (k : Nat) : total cost (List.replicate k fullMsg) = k * 4152 := by
  have hc : cost fullMsg = 4152 := by decide
  unfold total
  rw [List.map_replicate, List.sum_replicate, hc]
  rfl

/-- The ring takes 252 of the largest messages. -/
theorem run_accepted {k : Nat} (hk : k ≤ 252) :
    let s' := ({ dev := sampleDevice } : QueueRun).run 6 (List.replicate k (.push fullMsg))
    s'.offered.length = k ∧ s'.popped = [] ∧ s'.taken = 0 ∧ (s'.dev.ch 6).dropped = 0 ∧
      Holds (s'.dev.ch 6) (List.replicate k fullMsg) := by
  induction k with
  | zero => exact ⟨rfl, rfl, rfl, rfl, (sim_start sampleDevice_start).holds⟩
  | succ k ih =>
      obtain ⟨h1, h2, h3, h4, h5⟩ := ih (Nat.le_of_succ_le hk)
      have hsplit : List.replicate (k + 1) (QueueOp.push fullMsg) =
          List.replicate k (.push fullMsg) ++ [.push fullMsg] := List.replicate_succ'
      have hrun : ({ dev := sampleDevice } : QueueRun).run 6
        (List.replicate (k + 1) (.push fullMsg)) =
          (({ dev := sampleDevice } : QueueRun).run 6 (List.replicate k (.push fullMsg))).step 6
            (.push fullMsg) := by
        unfold QueueRun.run
        rw [hsplit, List.foldl_append]
        rfl
      intro s'
      have hs' : s' = _ := hrun
      generalize ({ dev := sampleDevice } : QueueRun).run 6 (List.replicate k (.push fullMsg)) = s
        at h1 h2 h3 h4 h5 hs'
      have hr : queueRefuses (s.dev.ch 6) fullMsg = false := by
        refine Bool.eq_false_iff.mpr fun e => (queueRefuses_iff h5 fullMsg).mp e ?_
        have hc : cost fullMsg = 4152 := by decide
        have hcap : opRxqBytes = 1048576 := rfl
        rw [total_replicate, hc, hcap]
        omega
      have hch : (s.step 6 (.push fullMsg)).dev.ch 6 = queuePush (s.dev.ch 6) fullMsg :=
        s.dev.setCh_same 6 _
      rw [hs']
      refine ⟨?_, h2, h3, ?_, ?_⟩
      · show (s.offered ++ [fullMsg]).length = k + 1
        rw [List.length_append, h1]
        rfl
      · rw [hch, queuePush_dropped hr, h4]
      · rw [hch, List.replicate_succ']
        exact holds_push h5 hr

/-- The state after 252 accepted messages and `n` refused ones. -/
theorem run_overrun (n : Nat) :
    let s := ({ dev := sampleDevice } : QueueRun).run 6 (List.replicate (252 + n) (.push fullMsg))
    s.offered.length = 252 + n ∧ s.popped = [] ∧ s.taken = 0 ∧ (s.dev.ch 6).qcount = 252 ∧
      (s.dev.ch 6).dropped = UInt32.ofNat n := by
  have hrun : ({ dev := sampleDevice } : QueueRun).run 6
    (List.replicate (252 + n) (.push fullMsg)) =
      (({ dev := sampleDevice } : QueueRun).run 6 (List.replicate 252 (.push fullMsg))).run 6
        (List.replicate n (.push fullMsg)) := by
    unfold QueueRun.run
    rw [← List.replicate_append_replicate, List.foldl_append]
  obtain ⟨h1, h2, h3, h4, h5⟩ := run_accepted (Nat.le_refl 252)
  intro s
  have hs : s = _ := hrun
  generalize ({ dev := sampleDevice } : QueueRun).run 6 (List.replicate 252 (.push fullMsg)) = t
    at h1 h2 h3 h4 h5 hs
  have hr : queueRefuses (t.dev.ch 6) fullMsg = true := by
    refine (queueRefuses_iff h5 fullMsg).mpr ?_
    have hc : cost fullMsg = 4152 := by decide
    have hcap : opRxqBytes = 1048576 := rfl
    rw [total_replicate, hc, hcap]
    omega
  obtain ⟨r1, r2, r3, r4⟩ := run_refused hr n
  rw [hs]
  refine ⟨by rw [r1, h1], r2.trans h2, r3.trans h3, ?_, ?_⟩
  · rw [r4]
    show (t.dev.ch 6).qcount = 252
    rw [h5.count, List.length_replicate]
  · rw [r4]
    show (t.dev.ch 6).dropped + UInt32.ofNat n = _
    rw [h4, UInt32.zero_add]

/-- **The count of refused messages wraps**: after 2^32 of them it says that none was. -/
theorem queueRun_wraps : ¬∀ (i : Fin 10) (d : OpDevice) (ops : List QueueOp), QueueStart i d →
    (∀ op ∈ ops, op.Fits) → QueueGood i (({ dev := d } : QueueRun).run i ops) := by
  intro hall
  have hgood := hall 6 sampleDevice (List.replicate (252 + 2 ^ 32) (.push fullMsg))
    sampleDevice_start
    fun op hop => by
      rw [List.eq_of_mem_replicate hop]
      exact fullMsg_fits
  have hconserved := hgood.conserved
  obtain ⟨h1, h2, h3, h4, h5⟩ := run_overrun (2 ^ 32)
  have h0 : (UInt32.ofNat (2 ^ 32)).toNat = 0 := by decide
  rw [h1, h2, h3, h4, h5, h0] at hconserved
  simp only [List.length_nil] at hconserved
  omega

end Openport
