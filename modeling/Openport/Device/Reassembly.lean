/-
  File:      Openport/Device/Reassembly.lean
  Subject:   `op_protocol_channel`, `op_protocol_base`, `queue_frame`, `indicate`
             and `absorb_frame` (`src/op_device.c`).

  The log lines of `absorb_frame` are left out; nothing reads them.
-/
import Openport.Device.Device

namespace Openport

open Lib.Ring

/-! ## 1. Protocols and channels -/

/-- `op_protocol_channel`, `none` for -1. -/
def opProtocolChannel (protocol : UInt64) : Option (Fin 10) :=
  if protocol = iso9141 ∨ protocol = iso9141Ch1 then some 3
  else if protocol = iso14230 ∨ protocol = iso14230Ch1 then some 4
  else if protocol = can ∨ protocol = canCh1 then some 5
  else if protocol = iso15765 ∨ protocol = iso15765Ch1 then some 6
  else if protocol = iso9141Ch2 then some 7
  else if protocol = iso14230Ch2 then some 8
  else if protocol = iso9141Ch3 then some 9
  else none

/-- `op_protocol_base`. -/
def opProtocolBase (protocol : UInt64) : UInt64 :=
  if protocol = iso9141Ch1 ∨ protocol = iso9141Ch2 ∨ protocol = iso9141Ch3 then iso9141
  else if protocol = iso14230Ch1 ∨ protocol = iso14230Ch2 then iso14230
  else if protocol = canCh1 then can
  else if protocol = iso15765Ch1 then iso15765
  else protocol

/-- The J2534-1 protocol a channel's framing follows. -/
def OpChannel.base (c : OpChannel) : UInt64 := opProtocolBase c.protocol.toUInt64

/-! ## 2. One frame as one message -/

/-- The bytes of a frame; none where `data` is NULL. -/
def OpReply.bytes (r : OpReply) : Bytes := r.data.getD []

/-- The message `queue_frame` builds from one frame. -/
def frameMsg (protocol : UInt64) (r : OpReply) (status : UInt64) (isIndication keepData : Bool) :
    PassThruMsg :=
  let bs := (if keepData then r.bytes else []).take j2534MsgDataMax
  { protocolID := protocol, timestamp := r.timestampUs.toUInt64, rxStatus := status,
    dataSize := UInt64.ofNat bs.length,
    extraDataIndex := if isIndication then 0 else UInt64.ofNat bs.length, data := dataOf bs }

/-- `queue_frame`. -/
def queueFrame (c : OpChannel) (protocol : UInt64) (r : OpReply) (status : UInt64)
    (isIndication keepData : Bool) : OpChannel :=
  queuePush c (frameMsg protocol r status isIndication keepData)

/-- `indicate`. -/
def indicate (c : OpChannel) (r : OpReply) (status : UInt64) (isIndication keepData : Bool) :
    OpChannel :=
  queueFrame c c.protocol.toUInt64 r status isIndication keepData

/-! ## 3. Reassembly -/

/-- The reassembly a frame is added to: the open one, or a fresh one that takes over the
    START's announcement. -/
def openPartial (c : OpChannel) : PassThruMsg :=
  if c.partialActive then c.partialMsg
  else { protocolID := c.protocol.toUInt64, rxStatus := if c.extAnnounced
    then iso15765AddrType else 0 }

/-- How much of a continuation frame is the repeated CAN id. -/
def continuationSkip (c : OpChannel) (p : PassThruMsg) (ext : UInt64) (len : Nat) : Nat :=
  if c.partialActive ∧ c.base = iso15765 then
    let skip := if (p.rxStatus ||| ext) &&& iso15765AddrType ≠ 0 then 5 else 4
    if len < skip then 0 else skip
  else 0

/-- A frame's bytes added to a reassembly, as many as there is room for. -/
def extendPartial (p : PassThruMsg) (timestamp : UInt32) (bits : UInt64) (bs : Bytes) :
    PassThruMsg :=
  let take := bs.take (j2534MsgDataMax - p.dataSize.toNat)
  let size := p.dataSize + UInt64.ofNat take.length
  { p with timestamp := timestamp.toUInt64, rxStatus := p.rxStatus ||| bits
           data := store p.data p.dataSize.toNat take, dataSize := size, extraDataIndex := size }

/-- The part of `absorb_frame` from `p = &c->partial` on. -/
def reassemble (c : OpChannel) (r : OpReply) (loopback : Bool) (wide ext : UInt64) : OpChannel :=
  let p := openPartial c
  let skip := continuationSkip c p ext r.bytes.length
  let p' := extendPartial p r.timestampUs ((if loopback then txMsgType else 0) ||| (wide ||| ext))
    (r.bytes.drop skip)
  let c' := { c with partialMsg := p', partialActive := true
                     extAnnounced := if c.partialActive then c.extAnnounced else false }
  if hasBit r.status opStsEnd then { queuePush c' p' with partialActive := false } else c'

/-- `absorb_frame` on the channel the frame is for, which is open. -/
def absorbOpen (c : OpChannel) (r : OpReply) : OpChannel :=
  let base := c.base
  let loopback := hasBit r.status opStsLoopback
  let wide := if (base = can ∨ base = iso15765) ∧ hasBit r.status opSts29Bit then can29BitId else 0
  let ext := if base = iso15765 ∧ hasBit r.status opStsExtAddr then iso15765AddrType else 0
  if hasBit r.status opStsTxInd ∧ (base = can ∨ base = iso15765) then
    indicate c r (txMsgType ||| txDone ||| wide ||| ext) true true
  else if base = can then
    indicate c r ((if loopback then txMsgType else 0) ||| wide) false true
  else if hasBit r.status opStsStart ∧ ¬hasBit r.status opStsEnd then
    let c' := { c with partialActive := false, extAnnounced := decide (ext ≠ 0) }
    if loopback ∧ base ≠ iso15765 then indicate c' r iso15765FirstFrame true false
    else indicate c' r ((if loopback then txMsgType ||| txDone
      else iso15765FirstFrame) ||| wide ||| ext)
      true (!loopback)
  else reassemble c r loopback wide ext

/-- `absorb_frame`. A frame for a channel that is not open is ignored, except the loopback
    echo of an ISO 15765 transmit, which the firmware reports on raw CAN channel 5. -/
def absorbFrame (d : OpDevice) (r : OpReply) : OpDevice :=
  if h : r.channel < 10 then
    let i : Fin 10 := ⟨r.channel, h⟩
    if (d.ch i).isOpen then d.setCh i (absorbOpen (d.ch i) r)
    else if r.channel = 5 ∧ hasBit r.status opStsLoopback ∧ (d.ch 6).isOpen then
      d.setCh 6 (queueFrame (d.ch 6) can r
        (txMsgType ||| (if hasBit r.status opSts29Bit then can29BitId else 0)) false true)
    else d
  else d

/-! ## 4. A frame as a change of state and a message -/

/-- Whether a frame is a transmit indication to its channel. -/
def OpChannel.isTxInd (c : OpChannel) (r : OpReply) : Bool :=
  hasBit r.status opStsTxInd && (c.base == can || c.base == iso15765)

/-- Whether a frame announces a message to a channel that reassembles. -/
def OpChannel.isStart (c : OpChannel) (r : OpReply) : Bool :=
  !c.isTxInd r && c.base != can && hasBit r.status opStsStart && !hasBit r.status opStsEnd

/-- Whether a frame carries data to a channel that reassembles. -/
def OpChannel.isData (c : OpChannel) (r : OpReply) : Bool :=
  !c.isTxInd r && c.base != can && !c.isStart r

/-- `wide` of `absorb_frame`. -/
def OpChannel.wide (c : OpChannel) (r : OpReply) : UInt64 :=
  if (c.base = can ∨ c.base = iso15765) ∧ hasBit r.status opSts29Bit then can29BitId else 0

/-- `ext` of `absorb_frame`. -/
def OpChannel.ext (c : OpChannel) (r : OpReply) : UInt64 :=
  if c.base = iso15765 ∧ hasBit r.status opStsExtAddr then iso15765AddrType else 0

/-- The reassembly after a data frame. -/
def OpChannel.nextPartial (c : OpChannel) (r : OpReply) : PassThruMsg :=
  extendPartial (openPartial c) r.timestampUs
    ((if hasBit r.status opStsLoopback then txMsgType else 0) ||| (c.wide r ||| c.ext r))
    (r.bytes.drop (continuationSkip c (openPartial c) (c.ext r) r.bytes.length))

/-- The channel after a frame, but for the queue. -/
def OpChannel.afterFrame (c : OpChannel) (r : OpReply) : OpChannel :=
  if c.isStart r then { c with partialActive := false, extAnnounced := decide (c.ext r ≠ 0) }
  else if c.isData r then
    { c with partialMsg := c.nextPartial r, partialActive := !hasBit r.status opStsEnd
             extAnnounced := if c.partialActive then c.extAnnounced else false }
  else c

/-- The message a frame puts in the queue, if any. -/
def OpChannel.frameOut (c : OpChannel) (r : OpReply) : Option PassThruMsg :=
  let loopback := hasBit r.status opStsLoopback
  if c.isTxInd r then
    some (frameMsg c.protocol.toUInt64 r (txMsgType ||| txDone ||| c.wide r ||| c.ext r) true true)
  else if c.base = can then
    some (frameMsg c.protocol.toUInt64 r
      ((if loopback then txMsgType else 0) ||| c.wide r) false true)
  else if c.isStart r then
    if loopback ∧ c.base ≠ iso15765 then
      some (frameMsg c.protocol.toUInt64 r iso15765FirstFrame true false)
    else
      some (frameMsg c.protocol.toUInt64 r
        ((if loopback then txMsgType ||| txDone else iso15765FirstFrame) ||| c.wide r ||| c.ext r)
        true (!loopback))
  else if hasBit r.status opStsEnd then some (c.nextPartial r)
  else none

/-- Put a message in the queue, if there is one. -/
def queueOption (c : OpChannel) : Option PassThruMsg → OpChannel
  | none => c
  | some m => queuePush c m

/-- `queue_push` is about the ring and the count of refused messages. -/
theorem queuePush_partial (c : OpChannel) (m p : PassThruMsg) (active ann : Bool) :
    queuePush { c with partialMsg := p, partialActive := active, extAnnounced := ann } m =
      { queuePush c m with partialMsg := p, partialActive := active, extAnnounced := ann } := by
  have e : queueRefuses { c with partialMsg := p, partialActive := active, extAnnounced := ann } m =
      queueRefuses c m := rfl
  unfold queuePush
  rw [e]
  cases queueRefuses c m with
  | true => rfl
  | false => rfl

theorem OpChannel.isTxInd_iff (c : OpChannel) (r : OpReply) : c.isTxInd r = true ↔
    hasBit r.status opStsTxInd = true ∧ (c.base = can ∨ c.base = iso15765) := by
  unfold OpChannel.isTxInd
  simp only [Bool.and_eq_true, Bool.or_eq_true, beq_iff_eq]

theorem OpChannel.isTxInd_false {c : OpChannel} {r : OpReply}
    (h : hasBit r.status opStsTxInd = false) : c.isTxInd r = false := by
  unfold OpChannel.isTxInd
  rw [h]
  rfl

theorem OpChannel.isStart_false {c : OpChannel} {r : OpReply}
    (h : hasBit r.status opStsStart = false) : c.isStart r = false := by
  unfold OpChannel.isStart
  rw [h, Bool.and_false, Bool.false_and]

/-- `absorb_frame` under the names above. -/
theorem absorbOpen_named (c : OpChannel) (r : OpReply) : absorbOpen c r =
    if c.isTxInd r = true then
      indicate c r (txMsgType ||| txDone ||| c.wide r ||| c.ext r) true true
    else if c.base = can then
      indicate c r ((if hasBit r.status opStsLoopback then txMsgType else 0) ||| c.wide r) false
        true
    else if hasBit r.status opStsStart = true ∧ ¬hasBit r.status opStsEnd = true then
      if hasBit r.status opStsLoopback = true ∧ c.base ≠ iso15765 then
        indicate { c with partialActive := false, extAnnounced := decide (c.ext r ≠ 0) } r
          iso15765FirstFrame true false
      else
        indicate { c with partialActive := false, extAnnounced := decide (c.ext r ≠ 0) } r
          ((if hasBit r.status opStsLoopback then txMsgType ||| txDone else iso15765FirstFrame) |||
            c.wide r ||| c.ext r) true (!hasBit r.status opStsLoopback)
    else reassemble c r (hasBit r.status opStsLoopback) (c.wide r) (c.ext r) := by
  simp only [OpChannel.isTxInd_iff]
  rfl

theorem OpChannel.isData_iff (c : OpChannel) (r : OpReply) : c.isData r = true ↔
    c.isTxInd r = false ∧ c.base ≠ can ∧ c.isStart r = false := by
  unfold OpChannel.isData
  simp only [Bool.and_eq_true, Bool.not_eq_true', bne_iff_ne, and_assoc]

/-- A data frame completes its message if it has END, and queues nothing otherwise. -/
theorem OpChannel.frameOut_data {c : OpChannel} {r : OpReply} (h : c.isData r = true) :
    c.frameOut r = if hasBit r.status opStsEnd then some (c.nextPartial r) else none := by
  obtain ⟨hti, hbase, hst⟩ := (c.isData_iff r).mp h
  unfold OpChannel.frameOut
  simp only [hti, hbase, hst, Bool.false_eq_true, if_false]

/-- **`absorb_frame` changes the reassembly, then queues at most one message.** -/
theorem absorbOpen_eq (c : OpChannel) (r : OpReply) :
    absorbOpen c r = queueOption (c.afterFrame r) (c.frameOut r) := by
  rw [absorbOpen_named]
  unfold OpChannel.afterFrame OpChannel.frameOut
  by_cases h1 : c.isTxInd r = true
  · have hs : ¬c.isStart r = true := by simp [OpChannel.isStart, h1]
    have hd : ¬c.isData r = true := by simp [OpChannel.isData, h1]
    rw [if_pos h1, if_neg hs, if_neg hd, if_pos h1]
    rfl
  rw [if_neg h1]
  by_cases h2 : c.base = can
  · have hs : ¬c.isStart r = true := by simp [OpChannel.isStart, h2]
    have hd : ¬c.isData r = true := by simp [OpChannel.isData, h2]
    rw [if_pos h2, if_neg hs, if_neg hd, if_neg h1, if_pos h2]
    rfl
  rw [if_neg h2]
  have hst : c.isStart r = true ↔ hasBit r.status opStsStart = true ∧
    ¬hasBit r.status opStsEnd = true := by
    simp [OpChannel.isStart, h1, h2]
  by_cases h3 : c.isStart r = true
  · rw [if_pos (hst.mp h3), if_pos h3, if_neg h1, if_neg h2, if_pos h3]
    by_cases h4 : hasBit r.status opStsLoopback = true ∧ c.base ≠ iso15765
    · rw [if_pos h4, if_pos h4]
      rfl
    · rw [if_neg h4, if_neg h4]
      rfl
  · have hd : c.isData r = true := by simp [OpChannel.isData, h1, h2, h3]
    rw [if_neg fun e => h3 (hst.mpr e), if_neg h3, if_pos hd, if_neg h1, if_neg h2, if_neg h3]
    unfold reassemble
    cases hasBit r.status opStsEnd with
    | true =>
        -- closing the reassembly before or after the push is the same
        have h5 := queuePush_partial c (c.nextPartial r) (c.nextPartial r) true
          (if c.partialActive then c.extAnnounced else false)
        have h6 := queuePush_partial c (c.nextPartial r) (c.nextPartial r) false
          (if c.partialActive then c.extAnnounced else false)
        exact (congrArg (fun x : OpChannel => { x with partialActive := false }) h5).trans h6.symm
    | false => rfl

end Openport
