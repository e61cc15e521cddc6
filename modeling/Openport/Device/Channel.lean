/-
  File:      Openport/Device/Channel.lean
  Subject:   `op_channel` and its receive queue (`src/op_device.c`): `ring_put`,
             `ring_get`, `queue_push`, the queue half of `op_device_pop`,
             `flush_locked`, and opening and closing a channel.

  The queue buffer is a flat array of bytes, `none` before `malloc` gave one.
  `op_qhdr` is copied to the ring and back as it lies in memory; its six words
  are laid out least significant byte first here, and nothing but
  `op_device_pop` reads them. `periodic` is the used part of the table.
-/
import Openport.Lib.Ring
import Openport.J2534

namespace Openport

open Lib.Ring

/-- Receive queue per channel, in bytes, `OP_RXQ_BYTES`. -/
def opRxqBytes : Nat := 1024 * 1024

/-- `sizeof (op_qhdr)`. -/
def qhdrSize : Nat := 24

/-! ## 1. The channel -/

/-- `op_channel`. -/
structure OpChannel where
  isOpen : Bool := false
  protocol : UInt32 := 0
  /-- in-progress reassembly, `partial` -/
  partialMsg : PassThruMsg := {}
  partialActive : Bool := false
  /-- the last START carried `OP_STS_EXT_ADDR` -/
  extAnnounced : Bool := false
  /-- the ring's buffer, kept for the process once allocated -/
  rq : Option (Mem UInt8) := none
  rqHead : Nat := 0
  rqTail : Nat := 0
  rqUsed : Nat := 0
  /-- messages in the ring -/
  qcount : Nat := 0
  /-- queue overruns since last read, an `unsigned` -/
  dropped : UInt32 := 0
  /-- live firmware periodic ids, the first `nperiodic` slots -/
  periodic : List UInt32 := []

/-! ## 2. The header of a queued message -/

/-- `op_qhdr`. -/
structure OpQhdr where
  protocol : UInt32
  rxStatus : UInt32
  txFlags : UInt32
  timestamp : UInt32
  size : UInt32
  extra : UInt32
  deriving DecidableEq, Repr

/-- One word of the header in memory. -/
def wordBytes (v : UInt32) : List UInt8 :=
  [UInt8.ofNat v.toNat, UInt8.ofNat (v.toNat / 256), UInt8.ofNat (v.toNat / 65536),
    UInt8.ofNat (v.toNat / 16777216)]

/-- The word at the front of some bytes, and the bytes behind it. -/
def wordOf (bs : List UInt8) : UInt32 × List UInt8 :=
  (UInt32.ofNat ((bs.getD 0 0).toNat + 256 * (bs.getD 1 0).toNat + 65536 * (bs.getD 2 0).toNat +
    16777216 * (bs.getD 3 0).toNat), bs.drop 4)

/-- The header as `ring_put` copies it. -/
def OpQhdr.toBytes (h : OpQhdr) : List UInt8 :=
  wordBytes h.protocol ++ wordBytes h.rxStatus ++ wordBytes h.txFlags ++ wordBytes h.timestamp ++
    wordBytes h.size ++ wordBytes h.extra

/-- The header as `ring_get` finds it. -/
def OpQhdr.ofBytes (bs : List UInt8) : OpQhdr :=
  let p := wordOf bs
  let r := wordOf p.2
  let t := wordOf r.2
  let s := wordOf t.2
  let z := wordOf s.2
  { protocol := p.1, rxStatus := r.1, txFlags := t.1, timestamp := s.1, size := z.1,
    extra := (wordOf z.2).1 }

theorem wordOf_wordBytes (v : UInt32) (bs : List UInt8) : wordOf (wordBytes v ++ bs) = (v, bs) := by
  have hv : v.toNat < 4294967296 := v.toNat_lt
  unfold wordOf wordBytes
  refine Prod.ext (UInt32.toNat_inj.mp ?_) rfl
  simp only [List.cons_append, List.getD_cons_zero, List.getD_cons_succ, UInt8.toNat_ofNat',
    UInt32.toNat_ofNat']
  omega

/-- **The header read back is the header written.** -/
theorem OpQhdr.ofBytes_toBytes (h : OpQhdr) : OpQhdr.ofBytes h.toBytes = h := by
  unfold OpQhdr.toBytes OpQhdr.ofBytes
  have hlast : wordOf (wordBytes h.extra) = (h.extra, []) := by
    have e := wordOf_wordBytes h.extra []
    rwa [List.append_nil] at e
  simp only [List.append_assoc, wordOf_wordBytes, hlast]

@[simp] theorem OpQhdr.toBytes_length (h : OpQhdr) : h.toBytes.length = qhdrSize := rfl

/-! ## 3. The queue -/

/-- `ring_put`. -/
def ringPut (c : OpChannel) (src : List UInt8) : OpChannel :=
  { c with rq := c.rq.map fun m => put opRxqBytes m c.rqTail src
           rqTail := (c.rqTail + src.length) % opRxqBytes }

/-- `ring_get`: the bytes, and the channel behind them. -/
def ringGet (c : OpChannel) (n : Nat) : List UInt8 × OpChannel :=
  (match c.rq with
    | none => []
    | some m => get opRxqBytes m c.rqHead n,
    { c with rqHead := (c.rqHead + n) % opRxqBytes })

/-- The header `queue_push` writes for a message: every field narrowed to 32 bits. -/
def qhdrOf (m : PassThruMsg) : OpQhdr :=
  { protocol := m.protocolID.toUInt32, rxStatus := m.rxStatus.toUInt32,
    txFlags := m.txFlags.toUInt32, timestamp := m.timestamp.toUInt32,
    size := UInt32.ofNat m.size, extra := m.extraDataIndex.toUInt32 }

/-- Whether `queue_push` refuses a message: no buffer, or no room. -/
def queueRefuses (c : OpChannel) (m : PassThruMsg) : Bool :=
  c.rq.isNone || decide (opRxqBytes < c.rqUsed + qhdrSize + m.size)

/-- `queue_push`: the arriving message is the one discarded when there is no room. -/
def queuePush (c : OpChannel) (m : PassThruMsg) : OpChannel :=
  if queueRefuses c m then { c with dropped := c.dropped + 1 }
  else
    let c' := ringPut (ringPut c (qhdrOf m).toBytes) (m.bytes m.size)
    { c' with rqUsed := c'.rqUsed + (qhdrSize + m.size), qcount := c'.qcount + 1 }

/-- The oldest message of a queue that is not empty, as `op_device_pop` takes it. -/
def queuePop (c : OpChannel) : PassThruMsg × OpChannel :=
  let g := ringGet c qhdrSize
  let h := OpQhdr.ofBytes g.1
  let b := ringGet g.2 h.size.toNat
  ({ protocolID := h.protocol.toUInt64, rxStatus := h.rxStatus.toUInt64,
     txFlags := h.txFlags.toUInt64, timestamp := h.timestamp.toUInt64,
     dataSize := h.size.toUInt64, extraDataIndex := h.extra.toUInt64, data := dataOf b.1 },
   { b.2 with rqUsed := b.2.rqUsed - (qhdrSize + h.size.toNat), qcount := b.2.qcount - 1 })

/-- A pop moves the head of the ring and the two counts, and leaves the rest of the channel. -/
theorem queuePop_ring (c : OpChannel) : ∃ head used,
    (queuePop c).2 = { c with rqHead := head, rqUsed := used, qcount := c.qcount - 1 } := by
  unfold queuePop ringGet
  exact ⟨_, _, rfl⟩

/-! ## 4. Flushing, opening, closing -/

/-- `flush_locked`. -/
def flushLocked (c : OpChannel) : OpChannel :=
  { c with rqHead := 0, rqTail := 0, rqUsed := 0, qcount := 0, partialActive := false,
           extAnnounced := false, dropped := 0 }

/-- A channel as `memset` leaves it, its queue buffer kept. -/
def OpChannel.cleared (c : OpChannel) : OpChannel := { rq := c.rq }

/-- The channel half of `op_device_open_channel`; `mem` is what `malloc` would give, and the
    channel is opened unless there is no buffer. -/
def openChannel (c : OpChannel) (mem : Option (Mem UInt8)) (protocol : UInt32) : OpChannel :=
  match c.rq <|> mem with
  | none => {}
  | some m => { rq := some m, isOpen := true, protocol := protocol }

/-- The channel half of `op_device_close_channel`. -/
def closeChannel (c : OpChannel) : OpChannel :=
  flushLocked { c with isOpen := false, periodic := [] }

end Openport
