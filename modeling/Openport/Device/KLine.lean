/-
  File:      Openport/Device/KLine.lean
  Subject:   K-line messages, from the wire to a channel's queue.

  The firmware puts a timestamp in the START frame and in the END frame of a K-line
  message and none in the data frames between them. `op_parse` tells the two by
  the status byte and the length of the body, `absorb_frame` by the status byte:
  that they agree, whatever the lengths and the other bits, is `kLine_delivers`.
-/
import Openport.Device.Reads
import Openport.Device.Overrun
import Openport.Device.Apart
import Openport.Device.Iso15765

namespace Openport

open Lib.Ring Lib.BoundedFifo

/-! ## 1. What is sent -/

/-- The three bits of a status byte that count on a K-line. -/
structure StatusBits (status : UInt8) (start final loopback : Bool) : Prop where
  start : hasBit status opStsStart = start
  final : hasBit status opStsEnd = final
  loopback : hasBit status opStsLoopback = loopback

/-- A K-line message as the cable sends it: a START frame and an END frame that hold a timestamp,
    and data frames between them. The bits of the status bytes that are not said to be anything
    are anything. -/
structure KLineMsg where
  loopback : Bool
  start : UInt8
  startTime : Stamp
  chunks : List (UInt8 × Bytes)
  last : UInt8
  lastTime : Stamp
  startBits : StatusBits start true false loopback
  chunkBits : ∀ f ∈ chunks, StatusBits f.1 false false loopback
  lastBits : StatusBits last false true loopback
  sized : ∀ f ∈ chunks, 1 ≤ f.2.length ∧ f.2.length ≤ 254
  room : (chunks.map (·.2)).flatten.length ≤ 4128

def KLineMsg.payload (m : KLineMsg) : Bytes := (m.chunks.map (·.2)).flatten

/-- The frames of a message: their status bytes and bodies. -/
def KLineMsg.frames (m : KLineMsg) : List (UInt8 × Bytes) :=
  (m.start, m.startTime.bytes) :: (m.chunks ++ [(m.last, m.lastTime.bytes)])

/-- RxStatus of the message. -/
def kLineStatus (loopback : Bool) : UInt64 := if loopback then txMsgType else 0

/-- What the application must get: a START_OF_MESSAGE indication, then the message. -/
def KLineMsg.out (protocol : UInt64) (m : KLineMsg) : List PassThruMsg :=
  [indication protocol m.startTime iso15765FirstFrame [],
    wholeMsg protocol m.lastTime (kLineStatus m.loopback) m.payload]

/-- A channel is open, and it is a K-line: it is the channel of its protocol. -/
structure KLineOpen (i : Fin 10) (c : OpChannel) : Prop where
  kLine : i = 3 ∨ i = 4 ∨ i = 7 ∨ i = 8 ∨ i = 9
  isOpen : c.isOpen = true
  protocol : opProtocolChannel c.protocol.toUInt64 = some i

/-! ## 2. What the parser makes of a frame -/

theorem hasBit_or (status a b : UInt8) :
    hasBit status (a ||| b) = (hasBit status a || hasBit status b) := by
  have hdist : status &&& (a ||| b) = (status &&& a) ||| (status &&& b) := by
    refine UInt8.toNat_inj.mp ?_
    rw [UInt8.toNat_and, UInt8.toNat_or, UInt8.toNat_or, UInt8.toNat_and, UInt8.toNat_and,
      Nat.and_or_distrib_left]
  unfold hasBit
  rw [hdist, Bool.eq_iff_iff, Bool.or_eq_true, bne_iff_ne, bne_iff_ne, bne_iff_ne, ne_eq,
    UInt8.or_eq_zero_iff]
  exact not_and_or

/-- A frame whose body is a timestamp. -/
def stampFrame (i : Fin 10) (status : UInt8) (t : Stamp) : OpReply :=
  { kind := .frame, channel := i.val, status := status, timestampUs := t.value, data := some [] }

/-- A frame whose body is data. -/
def chunkFrame (i : Fin 10) (status : UInt8) (body : Bytes) : OpReply :=
  { kind := .frame, channel := i.val, status := status, data := some body }

section Parse

variable {i : Fin 10} (hi : i = 3 ∨ i = 4 ∨ i = 7 ∨ i = 8 ∨ i = 9)
include hi

theorem kLine_channel : ¬(i.val = 5 ∨ i.val = 6) := by
  rcases hi with rfl | rfl | rfl | rfl | rfl <;> decide

/-- **Four bytes behind START or END are a timestamp, and no data.** -/
theorem frameReply_stamp {status : UInt8} {start final loopback : Bool} (t : Stamp)
    (hb : StatusBits status start final loopback) (h : (start || final) = true) :
    frameReply i.val status t.bytes = stampFrame i status t := by
  have ht : opFrameHasTimestamp i.val status t.bytes.length = true := by
    unfold opFrameHasTimestamp
    rw [if_neg (kLine_channel hi), hasBit_or, hb.start, hb.final, h]
    rfl
  unfold frameReply
  rw [ht]
  rfl

/-- **The body of any other frame is data**, four bytes or not. -/
theorem frameReply_chunk {status : UInt8} {loopback : Bool} (body : Bytes)
    (hb : StatusBits status false false loopback) :
    frameReply i.val status body = chunkFrame i status body := by
  have ht : opFrameHasTimestamp i.val status body.length = false := by
    unfold opFrameHasTimestamp
    rw [if_neg (kLine_channel hi), hasBit_or, hb.start, hb.final]
    rfl
  unfold frameReply
  rw [ht]
  rfl

end Parse

/-! ## 3. What the channel makes of it -/

/-- A K-line's framing is not that of CAN, and not that of ISO 15765. -/
theorem kLine_base {p : UInt64} {i : Fin 10} (hi : i = 3 ∨ i = 4 ∨ i = 7 ∨ i = 8 ∨ i = 9)
    (h : opProtocolChannel p = some i) : opProtocolBase p ≠ can ∧ opProtocolBase p ≠ iso15765 := by
  unfold opProtocolChannel at h
  split at h
  · rename_i hp
    rcases hp with rfl | rfl <;> decide
  split at h
  · rename_i hp
    rcases hp with rfl | rfl <;> decide
  split at h
  · cases h
    exact absurd hi (by decide)
  split at h
  · cases h
    exact absurd hi (by decide)
  split at h
  · rename_i hp
    subst hp
    decide
  split at h
  · rename_i hp
    subst hp
    decide
  split at h
  · rename_i hp
    subst hp
    decide
  · cases h

section Channel

variable {i : Fin 10} {c : OpChannel} {q : List PassThruMsg}

/-- The connection of a channel is all that makes it a K-line. -/
theorem KLineOpen.congr (h : KLineOpen i c) {c' : OpChannel} (h1 : c'.isOpen = c.isOpen)
    (h2 : c'.protocol = c.protocol) : KLineOpen i c' :=
  ⟨h.kLine, h1.trans h.isOpen, by rw [h2]; exact h.protocol⟩

/-- Its frames carry no address bits, and no frame is a transmit indication. -/
theorem KLineOpen.plain (h : KLineOpen i c) (r : OpReply) :
    c.base ≠ can ∧ c.base ≠ iso15765 ∧ c.isTxInd r = false ∧ c.wide r = 0 ∧ c.ext r = 0 := by
  obtain ⟨hcan, hiso⟩ : c.base ≠ can ∧ c.base ≠ iso15765 := kLine_base h.kLine h.protocol
  refine ⟨hcan, hiso, ?_, ?_, ?_⟩
  · refine Bool.eq_false_iff.mpr ?_
    intro e
    exact ((c.isTxInd_iff r).mp e).2.elim hcan hiso
  · unfold OpChannel.wide
    exact if_neg fun e => e.1.elim hcan hiso
  · unfold OpChannel.ext
    exact if_neg fun e => hiso e.1

/-- A queue behind one more frame: it holds what it held, and a message that was pushed. -/
theorem holds_queueOption {c' : OpChannel} (h : Holds c q) (h1 : c'.rq = c.rq)
    (h2 : c'.rqHead = c.rqHead) (h3 : c'.rqTail = c.rqTail) (h4 : c'.rqUsed = c.rqUsed)
    (h5 : c'.qcount = c.qcount) (o : Option PassThruMsg) :
    Holds (queueOption c' o) (q ++ kept cost opRxqBytes (total cost q) o.toList) := by
  have hall := holds_pushes (h.congr h1 h2 h3 h4 h5) o.toList
  cases o with
  | none => exact hall
  | some m => exact hall

/-- The channel is a K-line whose queue holds `q`, and `bs` is under way in it. -/
structure Gathers (i : Fin 10) (q : List PassThruMsg) (loopback : Bool) (bs : Bytes)
    (c : OpChannel) : Prop where
  opened : KLineOpen i c
  holds : Holds c q
  dataSize : (openPartial c).dataSize = UInt64.ofNat bs.length
  data : (openPartial c).data = dataOf bs
  rxStatus : (openPartial c).rxStatus = 0 ∨ (openPartial c).rxStatus = kLineStatus loopback
  protocolID : (openPartial c).protocolID = c.protocol.toUInt64
  txFlags : (openPartial c).txFlags = 0

/-- What one frame leaves of the channel's queue, connection and protocol. -/
theorem absorbOpen_holds (hc : KLineOpen i c) (hq : Holds c q) (r : OpReply) :
    KLineOpen i (absorbOpen c r) ∧
      Holds (absorbOpen c r)
        (q ++ kept cost opRxqBytes (total cost q) (c.frameOut r).toList) := by
  obtain ⟨h1, h2, -⟩ := absorbOpen_config c r
  obtain ⟨k1, k2, k3, k4, k5, -⟩ := c.afterFrame_ring r
  refine ⟨hc.congr h1 h2, ?_⟩
  rw [absorbOpen_eq]
  exact holds_queueOption hq k1 k2 k3 k4 k5 _

/-- **A START frame is an indication, and what was under way is gone.** -/
theorem absorbOpen_start (hc : KLineOpen i c) (hq : Holds c q) {status : UInt8} {loopback : Bool}
    (hb : StatusBits status true false loopback) (t : Stamp) :
    Gathers i (q ++ kept cost opRxqBytes (total cost q)
        [indication c.protocol.toUInt64 t iso15765FirstFrame []]) loopback []
      (absorbOpen c (frameReply i.val status t.bytes)) := by
  rw [frameReply_stamp hc.kLine t hb rfl]
  generalize hr : stampFrame i status t = r
  obtain ⟨hcan, hiso, hti, hwide, hext⟩ := hc.plain r
  have hstatus : r.status = status := by
    rw [← hr]
    rfl
  have hst : c.isStart r = true := by
    unfold OpChannel.isStart
    rw [hti, bne_iff_ne.mpr hcan, hstatus, hb.start, hb.final]
    rfl
  have hframe : ∀ keep : Bool, frameMsg c.protocol.toUInt64 r iso15765FirstFrame true keep =
      indication c.protocol.toUInt64 t iso15765FirstFrame [] := fun keep => by
    rw [← hr]
    cases keep <;> rfl
  have hout : c.frameOut r = some (indication c.protocol.toUInt64 t iso15765FirstFrame []) := by
    unfold OpChannel.frameOut
    simp only [hti, hcan, hst, hstatus, hb.loopback, hwide, hext, Bool.false_eq_true, if_false,
      if_true]
    cases loopback with
    | true => rw [if_pos ⟨rfl, hiso⟩, hframe]
    | false =>
        rw [if_neg fun e => Bool.false_ne_true e.1]
        exact congrArg some (hframe true)
  obtain ⟨hopen, hholds⟩ := absorbOpen_holds hc hq r
  rw [hout] at hholds
  have hafter : c.afterFrame r = { c with partialActive := false, extAnnounced := false } := by
    unfold OpChannel.afterFrame
    rw [if_pos hst, hext]
    rfl
  -- a channel with nothing open starts from an empty message
  have hfresh : openPartial (absorbOpen c r) = { protocolID := c.protocol.toUInt64 } := by
    obtain ⟨e1, -, e3, e4⟩ := queueOption_reassembly (c.afterFrame r) (c.frameOut r)
    unfold openPartial
    rw [absorbOpen_eq, e1, e3, e4, hafter]
    rfl
  have hprot : (absorbOpen c r).protocol = c.protocol := (absorbOpen_config c r).2.1
  refine ⟨hopen, hholds, ?_, ?_, ?_, ?_, ?_⟩
  · rw [hfresh]
    rfl
  · rw [hfresh]
    rfl
  · rw [hfresh]
    exact .inl rfl
  · rw [hfresh, hprot]
  · rw [hfresh]

/-- What a data frame or the last frame makes of the message under way. -/
theorem Gathers.next {loopback : Bool} {bs : Bytes} (h : Gathers i q loopback bs c) {r : OpReply}
    (hloop : hasBit r.status opStsLoopback = loopback)
    (hfit : (bs ++ r.bytes).length ≤ 4128) : c.nextPartial r =
      { protocolID := c.protocol.toUInt64, rxStatus := kLineStatus loopback
        timestamp := r.timestampUs.toUInt64, dataSize := UInt64.ofNat (bs ++ r.bytes).length
        extraDataIndex := UInt64.ofNat (bs ++ r.bytes).length, data :=
          dataOf (bs ++ r.bytes) } := by
  obtain ⟨-, hiso, -, hwide, hext⟩ := h.opened.plain r
  have hskip : ∀ n, continuationSkip c (openPartial c) (c.ext r) n = 0 := fun n => by
    unfold continuationSkip
    exact if_neg fun e => hiso e.2
  have hbits : (openPartial c).rxStatus |||
      ((if hasBit r.status opStsLoopback then txMsgType else 0) ||| (c.wide r ||| c.ext r)) =
      kLineStatus loopback := by
    rw [hloop, hwide, hext]
    rcases h.rxStatus with e | e
    · rw [e]
      cases loopback <;> decide
    · rw [e]
      cases loopback <;> decide
  unfold OpChannel.nextPartial
  rw [hskip, List.drop_zero, extendPartial_append bs h.dataSize h.data hfit, hbits, h.protocolID,
    h.txFlags]

/-- **A data frame's bytes go behind those under way**, all of them. -/
theorem Gathers.chunk {loopback : Bool} {bs : Bytes} (h : Gathers i q loopback bs c)
    {status : UInt8} (hb : StatusBits status false false loopback) {body : Bytes}
    (hfit : (bs ++ body).length ≤ 4128) :
    Gathers i q loopback (bs ++ body) (absorbOpen c (frameReply i.val status body)) := by
  rw [frameReply_chunk h.opened.kLine body hb]
  generalize hr : chunkFrame i status body = r
  have hbytes : r.bytes = body := by
    rw [← hr]
    rfl
  have hstatus : r.status = status := by
    rw [← hr]
    rfl
  obtain ⟨hcan, -, hti, -, -⟩ := h.opened.plain r
  have hst : c.isStart r = false := OpChannel.isStart_false (by rw [hstatus]; exact hb.start)
  have hda : c.isData r = true := (c.isData_iff r).mpr ⟨hti, hcan, hst⟩
  have hout : c.frameOut r = none := by
    rw [OpChannel.frameOut_data hda, hstatus, hb.final]
    rfl
  obtain ⟨hopen, hholds⟩ := absorbOpen_holds h.opened h.holds r
  rw [hout] at hholds
  have hgone : openPartial (absorbOpen c r) = c.nextPartial r := by
    obtain ⟨-, e2, e3, -⟩ := queueOption_reassembly (c.afterFrame r) (c.frameOut r)
    have hafter : (c.afterFrame r).partialMsg = c.nextPartial r ∧
        (c.afterFrame r).partialActive = true := by
      unfold OpChannel.afterFrame
      rw [hst, if_neg Bool.false_ne_true, if_pos hda, hstatus, hb.final]
      exact ⟨rfl, rfl⟩
    unfold openPartial
    rw [absorbOpen_eq, e2, e3, hafter.1, hafter.2]
    rfl
  have hnext := h.next (r := r) (by rw [hstatus]; exact hb.loopback) (by rw [hbytes]; exact hfit)
  rw [hbytes] at hnext
  have hprot : (absorbOpen c r).protocol = c.protocol := (absorbOpen_config c r).2.1
  rw [show q = q ++ kept cost opRxqBytes (total cost q) (none : Option PassThruMsg).toList from
    (List.append_nil q).symm]
  refine ⟨hopen, hholds, ?_, ?_, ?_, ?_, ?_⟩
  · rw [hgone, hnext]
  · rw [hgone, hnext]
  · rw [hgone, hnext]
    exact .inr rfl
  · rw [hgone, hnext, hprot]
  · rw [hgone, hnext]

theorem Gathers.chunks {loopback : Bool} : ∀ (fs : List (UInt8 × Bytes)) {bs : Bytes}
    {c : OpChannel}, Gathers i q loopback bs c →
    (∀ f ∈ fs, StatusBits f.1 false false loopback) →
    (bs ++ (fs.map (·.2)).flatten).length ≤ 4128 →
    Gathers i q loopback (bs ++ (fs.map (·.2)).flatten)
      ((fs.map fun f => frameReply i.val f.1 f.2).foldl absorbOpen c)
  | [], bs, _, h, _, _ => by
      rw [show bs ++ (([] : List (UInt8 × Bytes)).map (·.2)).flatten = bs from List.append_nil bs]
      exact h
  | f :: fs, bs, c, h, hb, hfit => by
      rw [List.map_cons, List.flatten_cons, ← List.append_assoc] at hfit ⊢
      have hfirst : (bs ++ f.2).length ≤ 4128 := by
        rw [List.length_append] at hfit
        omega
      exact Gathers.chunks fs (h.chunk (hb f List.mem_cons_self) hfirst)
        (fun g hg => hb g (List.mem_cons_of_mem _ hg)) hfit

/-- **The END frame queues the message**: all that is under way, with its own timestamp. -/
theorem Gathers.last {loopback : Bool} {bs : Bytes} (h : Gathers i q loopback bs c)
    {status : UInt8} (hb : StatusBits status false true loopback) (t : Stamp)
    (hfit : bs.length ≤ 4128) :
    KLineOpen i (absorbOpen c (frameReply i.val status t.bytes)) ∧
      Holds (absorbOpen c (frameReply i.val status t.bytes))
        (q ++ kept cost opRxqBytes (total cost q)
          [wholeMsg c.protocol.toUInt64 t (kLineStatus loopback) bs]) := by
  rw [frameReply_stamp h.opened.kLine t hb rfl]
  generalize hr : stampFrame i status t = r
  have hbytes : r.bytes = [] := by
    rw [← hr]
    rfl
  have hstatus : r.status = status := by
    rw [← hr]
    rfl
  have htime : r.timestampUs = t.value := by
    rw [← hr]
    rfl
  obtain ⟨hcan, -, hti, -, -⟩ := h.opened.plain r
  have hst : c.isStart r = false := OpChannel.isStart_false (by rw [hstatus]; exact hb.start)
  have hda : c.isData r = true := (c.isData_iff r).mpr ⟨hti, hcan, hst⟩
  have hnext := h.next (r := r) (by rw [hstatus]; exact hb.loopback)
    (by rw [hbytes, List.append_nil]; exact hfit)
  rw [hbytes, List.append_nil, htime] at hnext
  have hout : c.frameOut r =
      some (wholeMsg c.protocol.toUInt64 t (kLineStatus loopback) bs) := by
    rw [OpChannel.frameOut_data hda, hstatus, hb.final, hnext]
    rfl
  obtain ⟨hopen, hholds⟩ := absorbOpen_holds h.opened h.holds r
  rw [hout] at hholds
  exact ⟨hopen, hholds⟩

/-- The frames of a message, as the channel gets them. -/
def KLineMsg.replies (i : Fin 10) (m : KLineMsg) : List OpReply :=
  m.frames.map fun f => frameReply i.val f.1 f.2

/-- **One message**: whatever was under way, the queue gets its two messages, each if there is
    room for it. -/
theorem absorbOpen_message (hc : KLineOpen i c) (hq : Holds c q) (m : KLineMsg) :
    KLineOpen i ((m.replies i).foldl absorbOpen c) ∧
      ((m.replies i).foldl absorbOpen c).protocol = c.protocol ∧
      Holds ((m.replies i).foldl absorbOpen c)
        (q ++ kept cost opRxqBytes (total cost q) (m.out c.protocol.toUInt64)) := by
  have hprot : ∀ (rs : List OpReply) (c : OpChannel), (rs.foldl absorbOpen c).protocol =
      c.protocol := fun rs => by
    induction rs with
    | nil => exact fun _ => rfl
    | cons r rs ih => exact fun c => (ih (absorbOpen c r)).trans (absorbOpen_config c r).2.1
  have hstart := absorbOpen_start hc hq m.startBits m.startTime
  have hgather := hstart.chunks m.chunks m.chunkBits m.room
  rw [List.nil_append] at hgather
  obtain ⟨hopen, hholds⟩ := hgather.last m.lastBits m.lastTime m.room
  have hrun : (m.replies i).foldl absorbOpen c =
      absorbOpen ((m.chunks.map fun f => frameReply i.val f.1 f.2).foldl absorbOpen
        (absorbOpen c (frameReply i.val m.start m.startTime.bytes)))
        (frameReply i.val m.last m.lastTime.bytes) := by
    unfold KLineMsg.replies KLineMsg.frames
    rw [List.map_cons, List.map_append, List.foldl_cons, List.foldl_append]
    rfl
  refine ⟨hrun ▸ hopen, hprot _ c, ?_⟩
  rw [hrun]
  rw [hprot, (absorbOpen_config c _).2.1, total_append, List.append_assoc, ← kept_append] at hholds
  exact hholds

/-- Messages one after the other. -/
theorem absorbOpen_messages (ms : List KLineMsg) {c : OpChannel} {q : List PassThruMsg}
    (hc : KLineOpen i c) (hq : Holds c q) :
    Holds ((ms.flatMap (·.replies i)).foldl absorbOpen c)
      (q ++ kept cost opRxqBytes (total cost q) (ms.flatMap (·.out c.protocol.toUInt64))) := by
  induction ms generalizing c q with
  | nil =>
      rw [show kept cost opRxqBytes (total cost q) (([] : List KLineMsg).flatMap _) = [] from rfl,
        List.append_nil]
      exact hq
  | cons m ms ih =>
      obtain ⟨h1, h2, h3⟩ := absorbOpen_message hc hq m
      have hrest := ih h1 h3
      rw [h2, total_append, List.append_assoc, ← kept_append] at hrest
      rw [List.flatMap_cons, List.flatMap_cons, List.foldl_append]
      exact hrest

end Channel

/-! ## 4. From the wire -/

/-- A frame of the channel: its status byte and body. -/
def Record.ownFrame (i : Fin 10) : Record → Option (UInt8 × Bytes)
  | .frame ch status body => if ch = i then some (status, body) else none
  | _ => none

/-- The frames of one channel among some records. -/
def ownFrames (i : Fin 10) (rs : List WireRecord) : List (UInt8 × Bytes) :=
  rs.filterMap fun r => r.val.ownFrame i

/-- A record changes an open channel if it is a frame of it. Channel 6 gets echoes besides. -/
theorem handOn_ownFrame {i : Fin 10} (hi : i ≠ 6) {d : OpDevice} (hopen : (d.ch i).isOpen = true)
    (r : Record) : (handOn d r.handed).ch i =
      ((r.ownFrame i).toList.map fun f => frameReply i.val f.1 f.2).foldl absorbOpen (d.ch i) := by
  cases r with
  | frame ch status body =>
      have hframe : (Record.frame ch status body).ownFrame i =
          if ch = i then some (status, body) else none := rfl
      show (absorbFrame d (frameReply ch.val status body)).ch i = _
      rw [hframe]
      by_cases hc : ch = i
      · subst hc
        have hseen : concerns d ch (frameReply ch.val status body) = true := by
          unfold concerns
          rw [frameReply_channel, beq_self_eq_true]
          rfl
        rw [absorbFrame_seen hseen, if_pos rfl]
        unfold OpChannel.receive
        rw [if_pos hopen, if_pos (frameReply_channel _ _ _)]
        rfl
      · have hunseen : concerns d i (frameReply ch.val status body) = false := by
          have hne : ¬ch.val = i.val := fun e => hc (Fin.ext e)
          unfold concerns
          rw [frameReply_channel, beq_eq_false_iff_ne.mpr hne, beq_eq_false_iff_ne.mpr hi]
          rfl
        rw [absorbFrame_unseen hunseen, if_neg hc]
        rfl
  | ok | error | info | pin | filter | config | periodic | fastInit | fiveBaud =>
      exact congrFun (stashReply_ch d _) i

/-- What some records do to an open channel, its own frames do. -/
theorem handedOn_ownFrames {i : Fin 10} (hi : i ≠ 6) (rs : List WireRecord) {d : OpDevice}
    (hopen : (d.ch i).isOpen = true) : ((handedOn rs).foldl handOn d).ch i =
      ((ownFrames i rs).map fun f => frameReply i.val f.1 f.2).foldl absorbOpen (d.ch i) := by
  induction rs generalizing d with
  | nil => rfl
  | cons r rs ih =>
      have hstep : ((handedOn (r :: rs)).foldl handOn d).ch i =
          ((ownFrames i rs).map fun f => frameReply i.val f.1 f.2).foldl absorbOpen
            ((handOn d r.val.handed).ch i) :=
        ih (((handOn_steady d r.val.handed).isOpen i).trans hopen)
      have hframes : ownFrames i (r :: rs) = (r.val.ownFrame i).toList ++ ownFrames i rs := by
        unfold ownFrames
        cases h : r.val.ownFrame i with
        | none => exact List.filterMap_cons_none h
        | some f => exact List.filterMap_cons_some h
      rw [hstep, handOn_ownFrame hi hopen, hframes, List.map_append, List.foldl_append]

/-- **K-line messages survive the layout of their frames.** Whatever is under way on the channel,
    however the stream is cut into reads and whatever else is in it, the queue gets of each
    message a START_OF_MESSAGE indication and the message, each if there is room for it. -/
theorem kLine_delivers {i : Fin 10} {d : OpDevice} (hc : KLineOpen i (d.ch i))
    (hl : d.lost = false) (ha : d.accum = []) {q : List PassThruMsg} (hq : Holds (d.ch i) q)
    (ms : List KLineMsg) {rs : List WireRecord} (hrs : ownFrames i rs = ms.flatMap (·.frames))
    {reads : List Bytes} (h : CutInto reads (stream rs)) :
    let out := ms.flatMap (·.out (d.ch i).protocol.toUInt64)
    Holds ((arrivals d (reads.map .read)).ch i) (q ++ kept cost opRxqBytes (total cost q) out) ∧
      (total cost q + total cost out ≤ opRxqBytes →
        Holds ((arrivals d (reads.map .read)).ch i) (q ++ out)) := by
  intro out
  have hi : i ≠ 6 := by
    rcases hc.kLine with rfl | rfl | rfl | rfl | rfl <;> decide
  have hall : Holds ((arrivals d (reads.map .read)).ch i)
      (q ++ kept cost opRxqBytes (total cost q) out) := by
    rw [arrivals_records hl ha rs h, handedOn_ownFrames hi rs hc.isOpen, hrs, List.map_flatMap]
    exact absorbOpen_messages ms hc hq
  refine ⟨hall, ?_⟩
  intro hroom
  rw [kept_all hroom] at hall
  exact hall

/-- An echo of four bytes, in a frame that carries 0x10. -/
def kLineEcho : KLineMsg where
  loopback := true
  start := 0xA0
  startTime := ⟨0x22, 0xA6, 0xCB, 0x63⟩
  chunks := [(0x30, [0x68, 0x6A, 0xF1, 0x01])]
  last := 0x60
  lastTime := ⟨0x22, 0xA7, 0x28, 0xB2⟩
  startBits := ⟨by decide, by decide, by decide⟩
  chunkBits := fun f hf => by
    obtain rfl := List.mem_singleton.mp hf
    exact ⟨by decide, by decide, by decide⟩
  lastBits := ⟨by decide, by decide, by decide⟩
  sized := by decide
  room := by decide

/-- Its three frames on channel 3, in one read. -/
theorem kLine_delivers_echo :
    let records : List WireRecord :=
      [⟨.frame 3 0xA0 [0x22, 0xA6, 0xCB, 0x63], frame_wellFormed _ _ (by decide)⟩,
        ⟨.frame 3 0x30 [0x68, 0x6A, 0xF1, 0x01], frame_wellFormed _ _ (by decide)⟩,
        ⟨.frame 3 0x60 [0x22, 0xA7, 0x28, 0xB2], frame_wellFormed _ _ (by decide)⟩]
    Holds ((arrivals
        { opened := true
          ch := fun i => if i = 3 then { isOpen := true, protocol := 3, rq := some fun _ => 0 }
            else {} } ([stream records].map .read)).ch 3)
      [indication 3 ⟨0x22, 0xA6, 0xCB, 0x63⟩ iso15765FirstFrame [],
        wholeMsg 3 ⟨0x22, 0xA7, 0x28, 0xB2⟩ txMsgType [0x68, 0x6A, 0xF1, 0x01]] := by
  intro records
  have hcut : CutInto [stream records] (stream records) := by
    refine ⟨List.append_nil _, ?_⟩
    intro tmp htmp
    obtain rfl := List.mem_singleton.mp htmp
    decide
  exact (kLine_delivers (i := 3) (q := []) ⟨.inl rfl, rfl, by decide⟩ rfl rfl
    (holds_empty (m := fun _ => 0) rfl rfl rfl rfl rfl) [kLineEcho] rfl hcut).2 (by decide)

end Openport
