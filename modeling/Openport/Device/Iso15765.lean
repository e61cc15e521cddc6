/-
  File:      Openport/Device/Iso15765.lean
  Subject:   Reassembly on an open ISO 15765 channel undoes the cable's
             segmentation.

  The cable sends a message as an optional START frame with the CAN id, then
  chunk frames that each repeat the id, the last with END. An `Item` is one
  record of such a stream, transmit indications and foreign records included;
  `Expects c its` ties the channel's reassembly to the items still to come, and
  one item at a time it is kept (`expects_step`).
-/
import Openport.Device.QueueRuns
import Openport.Device.Steady
import Openport.Proto.Record

namespace Openport

open Lib.Ring Lib.BoundedFifo

/-! ## 1. What the cable sends -/

/-- The four timestamp bytes of a frame. -/
structure Stamp where
  b0 : UInt8
  b1 : UInt8
  b2 : UInt8
  b3 : UInt8
  deriving DecidableEq, Repr

def Stamp.bytes (t : Stamp) : Bytes := [t.b0, t.b1, t.b2, t.b3]

/-- The time it says, in microseconds. -/
def Stamp.value (t : Stamp) : UInt32 := opRdBe32 t.b0 t.b1 t.b2 t.b3

/-- A message as the cable segments it: the low bits of its frames' status bytes, the CAN id
    (with its address byte when the frames say so), whether a START announces it, and its
    payload in chunks, one a frame. -/
structure IsoMsg where
  low : Fin 16
  header : Bytes
  announce : Option Stamp
  parts : List (Stamp × Bytes)
  final : Stamp × Bytes
  deriving DecidableEq, Repr

/-- The status byte of a frame: START and END, and the low bits. -/
def isoStatus (flags : UInt8) (low : Fin 16) : UInt8 := flags ||| UInt8.ofNat low.val

def IsoMsg.payload (m : IsoMsg) : Bytes := (m.parts.map (·.2)).flatten ++ m.final.2

/-- Whether the frames carry `OP_STS_EXT_ADDR`. -/
def IsoMsg.ext (m : IsoMsg) : Bool := hasBit (isoStatus 0 m.low) opStsExtAddr

structure IsoMsg.WellFormed (m : IsoMsg) : Prop where
  header : m.header.length = if m.ext then 5 else 4
  payload : m.payload.length ≤ 4095

/-- One record of the stream. -/
inductive Item where
  /-- a record that is no frame of the channel -/
  | other (r : Record)
  /-- a transmit indication of the channel -/
  | txInd (status : UInt8) (t : Stamp) (data : Bytes)
  | start (m : IsoMsg) (t : Stamp)
  | part (m : IsoMsg) (t : Stamp) (chunk : Bytes)
  | last (m : IsoMsg)
  deriving DecidableEq, Repr

/-- The record on the wire. -/
def Item.record : Item → Record
  | .other r => r
  | .txInd status t data => .frame 6 status (t.bytes ++ data)
  | .start m t => .frame 6 (isoStatus opStsStart m.low) (t.bytes ++ m.header)
  | .part m t chunk => .frame 6 (isoStatus 0 m.low) (t.bytes ++ (m.header ++ chunk))
  | .last m => .frame 6 (isoStatus opStsEnd m.low) (m.final.1.bytes ++ (m.header ++ m.final.2))

/-- Whether the record is a frame of one of the channel's messages. -/
def Item.own : Item → Bool
  | .other _ | .txInd _ _ _ => false
  | _ => true

/-- The chunk frames of a message from some chunk on. -/
def chunkItems (m : IsoMsg) (parts : List (Stamp × Bytes)) : List Item :=
  parts.map (fun p => .part m p.1 p.2) ++ [.last m]

/-- The frames of a message. -/
def IsoMsg.items (m : IsoMsg) : List Item :=
  (m.announce.toList.map fun t => .start m t) ++ chunkItems m m.parts

def allItems (ms : List IsoMsg) : List Item := (ms.map IsoMsg.items).flatten

/-! ## 2. What the application must get -/

/-- The address bits of RxStatus that a frame's status byte stands for. -/
def addressBits (status : UInt8) : UInt64 :=
  (if hasBit status opSts29Bit then can29BitId else 0) |||
    (if hasBit status opStsExtAddr then iso15765AddrType else 0)

/-- An indication: the frame's data, and ExtraDataIndex 0. -/
def indication (protocol : UInt64) (t : Stamp) (rxStatus : UInt64) (data : Bytes) : PassThruMsg :=
  { protocolID := protocol, timestamp := t.value.toUInt64, rxStatus := rxStatus,
    dataSize := UInt64.ofNat data.length, data := dataOf data }

/-- A message: its data, and DataSize = ExtraDataIndex = its length. -/
def wholeMsg (protocol : UInt64) (t : Stamp) (rxStatus : UInt64) (data : Bytes) : PassThruMsg :=
  { protocolID := protocol, timestamp := t.value.toUInt64, rxStatus := rxStatus,
    dataSize := UInt64.ofNat data.length, extraDataIndex := UInt64.ofNat data.length
    data := dataOf data }

/-- What the application must get for a record of the stream, if anything. -/
def Item.out (protocol : UInt64) : Item → Option PassThruMsg
  | .other _ | .part _ _ _ => none
  | .txInd status t data =>
    some (indication protocol t (txMsgType ||| txDone ||| addressBits status) data)
  | .start m t =>
    some (indication protocol t (iso15765FirstFrame ||| addressBits (isoStatus 0 m.low)) m.header)
  | .last m =>
    some (wholeMsg protocol m.final.1 (addressBits (isoStatus 0 m.low)) (m.header ++ m.payload))

/-! ## 3. One frame -/

theorem isoStatus_bits (low : Fin 16) :
    hasBit (isoStatus opStsStart low) opStsTxInd = false ∧
    hasBit (isoStatus opStsEnd low) opStsTxInd = false ∧
    hasBit (isoStatus 0 low) opStsTxInd = false ∧
    hasBit (isoStatus opStsStart low) opStsStart = true ∧
    hasBit (isoStatus opStsStart low) opStsEnd = false ∧
    hasBit (isoStatus opStsEnd low) opStsStart = false ∧
    hasBit (isoStatus opStsEnd low) opStsEnd = true ∧
    hasBit (isoStatus 0 low) opStsStart = false ∧ hasBit (isoStatus 0 low) opStsEnd = false ∧
    hasBit (isoStatus opStsStart low) opStsLoopback = false ∧
    hasBit (isoStatus opStsEnd low) opStsLoopback = false ∧
    hasBit (isoStatus 0 low) opStsLoopback = false := by
  revert low
  decide

/-- START and END do not touch the address bits. -/
theorem addressBits_low (low : Fin 16) :
    addressBits (isoStatus opStsStart low) = addressBits (isoStatus 0 low) ∧
    addressBits (isoStatus opStsEnd low) = addressBits (isoStatus 0 low) := by
  revert low
  decide

theorem ext_low (low : Fin 16) :
    hasBit (isoStatus opStsStart low) opStsExtAddr = hasBit (isoStatus 0 low) opStsExtAddr ∧
    hasBit (isoStatus opStsEnd low) opStsExtAddr = hasBit (isoStatus 0 low) opStsExtAddr := by
  revert low
  decide

/-- Adding a frame's address bits to a reassembly of the same message changes nothing more. -/
theorem addressBits_or (status : UInt8) {a : UInt64}
    (ha : a = 0 ∨ (a = iso15765AddrType ∧ hasBit status opStsExtAddr = true) ∨
      a = addressBits status) :
    a ||| (0 ||| addressBits status) = addressBits status := by
  rw [UInt64.zero_or]
  rcases ha with rfl | ⟨rfl, h⟩ | rfl
  · exact UInt64.zero_or
  · unfold addressBits
    rw [h]
    cases hasBit status opSts29Bit <;> decide
  · exact UInt64.or_self

/-- A stamped frame of channel 6 is read as its stamp and its data. -/
theorem frameReply_stamped (status : UInt8) (t : Stamp) (data : Bytes) :
    frameReply 6 status (t.bytes ++ data) =
      { kind := .frame, channel := 6, status := status, timestampUs := t.value,
        data := some data } := by
  have h : opFrameHasTimestamp 6 status (t.bytes ++ data).length = true := by
    unfold opFrameHasTimestamp
    rw [if_pos (by decide), List.length_append]
    exact decide_eq_true (Nat.le_add_right 4 _)
  unfold frameReply
  rw [h]
  rfl

/-- Appending to a filled array. -/
theorem store_dataOf (xs ys : Bytes) : store (dataOf xs) xs.length ys = dataOf (xs ++ ys) := by
  funext i
  unfold store dataOf
  simp only [List.getD_eq_getElem?_getD]
  by_cases h : xs.length ≤ i
  · rw [if_pos h, List.getElem?_append_right h, List.getElem?_eq_none h]
    rfl
  · rw [if_neg h, List.getElem?_append_left (Nat.lt_of_not_le h)]

/-- A frame's bytes behind those already there, when there is room for all of them. -/
theorem extendPartial_append {p : PassThruMsg} (xs : Bytes) {bs : Bytes}
    (hs : p.dataSize = UInt64.ofNat xs.length)
    (hd : p.data = dataOf xs) (hfit : (xs ++ bs).length ≤ 4128) (ts : UInt32) (bits : UInt64) :
    extendPartial p ts bits bs =
      { p with timestamp := ts.toUInt64, rxStatus := p.rxStatus ||| bits, data := dataOf (xs ++ bs)
               dataSize := UInt64.ofNat (xs ++ bs).length
               extraDataIndex := UInt64.ofNat (xs ++ bs).length } := by
  rw [List.length_append] at hfit
  have hmax : j2534MsgDataMax = 4128 := rfl
  have hn : p.dataSize.toNat = xs.length := by
    rw [hs]
    exact toNat_dataSize (by omega)
  have htake : bs.take (j2534MsgDataMax - xs.length) = bs := List.take_of_length_le (by omega)
  have hsize : p.dataSize + UInt64.ofNat bs.length = UInt64.ofNat (xs ++ bs).length := by
    rw [hs, List.length_append, UInt64.ofNat_add]
  unfold extendPartial
  simp only [hn, htake, hsize, hd, store_dataOf]

/-! ## 4. The channel between two frames -/

/-- The channel is an open ISO 15765 channel. -/
structure IsoOpen (c : OpChannel) : Prop where
  isOpen : c.isOpen = true
  base : c.base = iso15765

/-- No reassembly is open; an announcement, if there is one, is for `m`. -/
structure Ready (c : OpChannel) (m : IsoMsg) : Prop where
  active : c.partialActive = false
  announced : c.extAnnounced = true → m.ext = true

/-- Between messages. -/
structure Idle (c : OpChannel) : Prop where
  active : c.partialActive = false
  announced : c.extAnnounced = false

/-- Inside `m`, with `done` of its payload there. -/
structure Inside (c : OpChannel) (m : IsoMsg) (done : Bytes) : Prop where
  active : c.partialActive = true
  announced : c.extAnnounced = false
  partialMsg : ∃ t, c.partialMsg =
    wholeMsg c.protocol.toUInt64 t (addressBits (isoStatus 0 m.low)) (m.header ++ done)

/-- The channel is where the frames still to come begin. -/
def Expects (c : OpChannel) (its : List Item) : Prop :=
  ∃ ms, (∀ m ∈ ms, m.WellFormed) ∧
    ((Idle c ∧ its = allItems ms) ∨
     (∃ m, m.WellFormed ∧ Ready c m ∧ its = chunkItems m m.parts ++ allItems ms) ∨
     (∃ m pre post, m.WellFormed ∧ m.parts = pre ++ post ∧ Inside c m (pre.map (·.2)).flatten ∧
        its = chunkItems m post ++ allItems ms))

/-- The reply `op_parse` gives for a stamped frame. -/
def stamped (status : UInt8) (t : Stamp) (data : Bytes) : OpReply :=
  { kind := .frame, channel := 6, status := status, timestampUs := t.value, data := some data }

/-- An indication of a stamped frame. -/
theorem frameMsg_stamped (protocol rxStatus : UInt64) (status : UInt8) (t : Stamp) {data : Bytes}
    (hl : data.length ≤ 4128) : frameMsg protocol (stamped status t data) rxStatus true true =
      indication protocol t rxStatus data := by
  have h : (stamped status t data).bytes.take j2534MsgDataMax = data := List.take_of_length_le hl
  unfold frameMsg
  simp only [if_true, h]
  rfl

section Frame

variable {c : OpChannel} (hc : IsoOpen c)
include hc

theorem isTxInd_iso (r : OpReply) : c.isTxInd r = hasBit r.status opStsTxInd := by
  unfold OpChannel.isTxInd
  rw [hc.base]
  exact Bool.and_true _

theorem bits_iso (r : OpReply) : c.wide r ||| c.ext r = addressBits r.status := by
  have hw : c.wide r = if hasBit r.status opSts29Bit = true then can29BitId else 0 := by
    unfold OpChannel.wide
    rw [hc.base]
    simp only [or_true, true_and]
  have he : c.ext r = if hasBit r.status opStsExtAddr = true then iso15765AddrType else 0 := by
    unfold OpChannel.ext
    rw [hc.base]
    simp only [true_and]
  rw [hw, he]
  rfl

theorem ext_iso (r : OpReply) : decide (c.ext r ≠ 0) = hasBit r.status opStsExtAddr := by
  unfold OpChannel.ext
  rw [hc.base]
  cases hasBit r.status opStsExtAddr <;> decide

/-- A transmit indication changes no reassembly. -/
theorem txInd_frame {status : UInt8} (hs : hasBit status opStsTxInd = true) (t : Stamp)
    {data : Bytes}
    (hl : data.length ≤ 4128) : c.afterFrame (stamped status t data) = c ∧
      c.frameOut (stamped status t data) = (Item.txInd status t data).out c.protocol.toUInt64 := by
  have hti : c.isTxInd (stamped status t data) = true := by
    rw [isTxInd_iso hc]
    exact hs
  have hst : c.isStart (stamped status t data) = false := by simp [OpChannel.isStart, hti]
  have hda : c.isData (stamped status t data) = false := by simp [OpChannel.isData, hti]
  refine ⟨?_, ?_⟩
  · unfold OpChannel.afterFrame
    rw [hst, hda]
    rfl
  · unfold OpChannel.frameOut
    simp only [hti, if_true]
    rw [UInt64.or_assoc, bits_iso hc, frameMsg_stamped _ _ _ _ hl]
    rfl

/-- A START frame announces the message. -/
theorem start_frame {m : IsoMsg} (hm : m.WellFormed) (t : Stamp) :
    let r := stamped (isoStatus opStsStart m.low) t m.header
    Ready (c.afterFrame r) m ∧ c.frameOut r = (Item.start m t).out c.protocol.toUInt64 := by
  intro r
  obtain ⟨h1, -, -, h4, h5, -, -, -, -, h10, -, -⟩ := isoStatus_bits m.low
  have hti : c.isTxInd r = false := (isTxInd_iso hc r).trans h1
  have hnc : (c.base != can) = true := by
    rw [hc.base]
    decide
  have hst : c.isStart r = true := by
    unfold OpChannel.isStart
    rw [hti, hnc]
    show (true && true && hasBit (isoStatus opStsStart m.low) opStsStart &&
      !hasBit (isoStatus opStsStart m.low) opStsEnd) = true
    rw [h4, h5]
    rfl
  refine ⟨?_, ?_⟩
  · unfold OpChannel.afterFrame
    rw [if_pos hst]
    refine ⟨rfl, ?_⟩
    intro e
    have e' : decide (c.ext r ≠ 0) = true := e
    rw [ext_iso hc] at e'
    exact (ext_low m.low).1.symm.trans e'
  · have hbase : c.base ≠ can := by
      rw [hc.base]
      decide
    have hlb : hasBit r.status opStsLoopback = false := h10
    have hlen : m.header.length ≤ 4128 := by
      rw [hm.header]
      split <;> omega
    unfold OpChannel.frameOut
    simp only [hti, hbase, hst, hlb, Bool.false_eq_true, if_false, if_true, false_and,
      Bool.not_false]
    rw [UInt64.or_assoc, bits_iso hc, frameMsg_stamped _ _ _ _ hlen]
    show some (indication _ t (iso15765FirstFrame ||| addressBits (isoStatus opStsStart m.low)) _) =
      _
    rw [(addressBits_low m.low).1]
    rfl

/-- The reassembly after the first chunk of a message. -/
theorem nextPartial_first {m : IsoMsg} (hm : m.WellFormed) (hr : Ready c m) (t : Stamp)
    {chunk : Bytes}
    (hl : chunk.length ≤ 4095) {flags : UInt8}
    (hb : addressBits (isoStatus flags m.low) = addressBits (isoStatus 0 m.low))
    (hlb : hasBit (isoStatus flags m.low) opStsLoopback = false) :
    c.nextPartial (stamped (isoStatus flags m.low) t (m.header ++ chunk)) =
      wholeMsg c.protocol.toUInt64 t (addressBits (isoStatus 0 m.low)) (m.header ++ chunk) := by
  have hhead : m.header.length ≤ 5 := by
    rw [hm.header]
    split <;> omega
  have hopen : openPartial c =
      { protocolID := c.protocol.toUInt64
        rxStatus := if c.extAnnounced then iso15765AddrType else 0 } := by
    unfold openPartial
    rw [hr.active]
    rfl
  have hskip : ∀ p ext len, continuationSkip c p ext len = 0 := by
    intro p ext len
    unfold continuationSkip
    rw [if_neg]
    rintro ⟨e, -⟩
    rw [hr.active] at e
    cases e
  unfold OpChannel.nextPartial
  rw [bits_iso hc, hskip]
  show extendPartial (openPartial c) t.value
    ((if hasBit (isoStatus flags m.low) opStsLoopback = true
    then txMsgType else 0) ||| addressBits (isoStatus flags m.low)) (m.header ++ chunk) = _
  rw [hlb, hb, hopen, extendPartial_append [] rfl rfl
    (by simp only [List.nil_append, List.length_append]; omega)]
  unfold wholeMsg
  simp only [Bool.false_eq_true, if_false, List.nil_append]
  rw [addressBits_or]
  by_cases ha : c.extAnnounced = true
  · rw [if_pos ha]
    exact Or.inr (Or.inl ⟨rfl, hr.announced ha⟩)
  · rw [if_neg ha]
    exact Or.inl rfl

/-- The reassembly after a further chunk. -/
theorem nextPartial_more {m : IsoMsg} (hm : m.WellFormed) {done : Bytes}
    (hi : Inside c m done) (t : Stamp)
    {chunk : Bytes} (hl : (done ++ chunk).length ≤ 4095) {flags : UInt8}
    (hb : addressBits (isoStatus flags m.low) = addressBits (isoStatus 0 m.low))
    (he : hasBit (isoStatus flags m.low) opStsExtAddr = hasBit (isoStatus 0 m.low) opStsExtAddr)
    (hlb : hasBit (isoStatus flags m.low) opStsLoopback = false) :
    c.nextPartial (stamped (isoStatus flags m.low) t (m.header ++ chunk)) =
      wholeMsg c.protocol.toUInt64 t (addressBits (isoStatus 0 m.low))
        (m.header ++ (done ++ chunk)) := by
  obtain ⟨t', hp⟩ := hi.partialMsg
  have hhead : m.header.length ≤ 5 := by
    rw [hm.header]
    split <;> omega
  have hopen : openPartial c = c.partialMsg := by
    unfold openPartial
    rw [hi.active]
    rfl
  -- the repeated CAN id is what is skipped
  have hskip : continuationSkip c c.partialMsg
    (c.ext (stamped (isoStatus flags m.low) t (m.header ++ chunk)))
      (m.header ++ chunk).length = m.header.length := by
    have hext : c.ext (stamped (isoStatus flags m.low) t (m.header ++ chunk)) =
        if m.ext then iso15765AddrType else 0 := by
      unfold OpChannel.ext IsoMsg.ext
      rw [hc.base, ← he]
      simp only [true_and]
      rfl
    have hrx : c.partialMsg.rxStatus = addressBits (isoStatus 0 m.low) := by
      rw [hp]
      rfl
    have hfive : (if (c.partialMsg.rxStatus ||| c.ext (stamped (isoStatus flags m.low) t
        (m.header ++ chunk))) &&& iso15765AddrType ≠ 0 then 5 else 4) = m.header.length := by
      rw [hrx, hext, hm.header]
      unfold addressBits IsoMsg.ext
      cases hasBit (isoStatus 0 m.low) opSts29Bit <;> cases hasBit
        (isoStatus 0 m.low) opStsExtAddr <;> decide
    unfold continuationSkip
    rw [if_pos ⟨hi.active, hc.base⟩]
    simp only [hfive, List.length_append]
    rw [if_neg (by omega)]
  unfold OpChannel.nextPartial
  rw [bits_iso hc, hopen]
  show extendPartial c.partialMsg t.value ((if hasBit (isoStatus flags m.low) opStsLoopback = true
    then txMsgType else 0) ||| addressBits (isoStatus flags m.low)) ((m.header ++ chunk).drop
      (continuationSkip c c.partialMsg _ (m.header ++ chunk).length)) = _
  rw [hskip, List.drop_left, hlb, hb, hp, extendPartial_append (m.header ++ done) rfl rfl
    (by simp only [List.length_append] at hl ⊢; omega)]
  unfold wholeMsg
  simp only [Bool.false_eq_true, if_false, List.append_assoc]
  rw [addressBits_or _ (Or.inr (Or.inr rfl))]

/-- A chunk frame's effect, given the reassembly after it. -/
theorem chunk_frame {m : IsoMsg} {flags : UInt8} (hflags : flags = 0 ∨ flags = opStsEnd)
    (t : Stamp) (data : Bytes) :
    let r := stamped (isoStatus flags m.low) t data
    c.afterFrame r = { c with partialMsg := c.nextPartial r, partialActive := decide (flags = 0)
                              extAnnounced := if c.partialActive then c.extAnnounced else false } ∧
      c.frameOut r = if flags = 0 then none else some (c.nextPartial r) := by
  intro r
  obtain ⟨-, h2, h3, -, -, h6, h7, h8, h9, -, -, -⟩ := isoStatus_bits m.low
  have hbase : c.base ≠ can := by
    rw [hc.base]
    decide
  have hnc : (c.base != can) = true := bne_iff_ne.mpr hbase
  have hti : c.isTxInd r = false := by
    rw [isTxInd_iso hc]
    rcases hflags with rfl | rfl
    · exact h3
    · exact h2
  have hst : c.isStart r = false := by
    refine OpChannel.isStart_false ?_
    rcases hflags with rfl | rfl
    · exact h8
    · exact h6
  have hda : c.isData r = true := by
    unfold OpChannel.isData
    rw [hti, hst, hnc]
    rfl
  have hend : hasBit r.status opStsEnd = decide (flags ≠ 0) := by
    rcases hflags with rfl | rfl
    · exact h9
    · exact h7
  unfold OpChannel.afterFrame OpChannel.frameOut
  simp only [hti, hst, hda, hbase, hend, Bool.false_eq_true, if_false, if_true]
  rcases hflags with rfl | rfl
  · exact ⟨rfl, rfl⟩
  · exact ⟨rfl, rfl⟩

/-- One chunk of a message: the reassembly holds it, and END puts the message in the queue. -/
theorem chunk_step {m : IsoMsg} (hm : m.WellFormed) {pre post : List (Stamp × Bytes)}
    {ms : List IsoMsg}
    (hms : ∀ m ∈ ms, m.WellFormed) (hparts : m.parts = pre ++ post)
    (hpart : ∀ (flags : UInt8) (t : Stamp) (chunk : Bytes), flags = 0 ∨ flags = opStsEnd →
      ((pre.map (·.2)).flatten ++ chunk).length ≤ 4095 →
      c.nextPartial (stamped (isoStatus flags m.low) t (m.header ++ chunk)) =
        wholeMsg c.protocol.toUInt64 t (addressBits (isoStatus 0 m.low))
          (m.header ++ ((pre.map (·.2)).flatten ++ chunk)))
    (hann : (if c.partialActive then c.extAnnounced else false) = false) {it : Item}
    {its : List Item}
    (hits : it :: its = chunkItems m post ++ allItems ms) :
    ∃ status t data, it.record = .frame 6 status (t.bytes ++ data) ∧
      c.frameOut (stamped status t data) = it.out c.protocol.toUInt64 ∧
      Expects (c.afterFrame (stamped status t data)) its := by
  have hpay := hm.payload
  unfold IsoMsg.payload at hpay
  rw [hparts, List.map_append, List.flatten_append, List.append_assoc, List.length_append] at hpay
  cases post with
  | nil =>
      -- the END frame: the message is complete
      obtain ⟨rfl, rfl⟩ : it = .last m ∧ its = allItems ms := List.cons_eq_cons.mp hits
      rw [List.append_nil] at hparts
      refine ⟨_, _, _, rfl, ?_, ms, hms, Or.inl ⟨?_, rfl⟩⟩
      · rw [(chunk_frame hc (Or.inr rfl) m.final.1 (m.header ++ m.final.2)).2, if_neg (by decide),
          hpart opStsEnd m.final.1 m.final.2 (Or.inr rfl) (by simpa using hpay)]
        show _ = some (wholeMsg _ _ _ (m.header ++ ((m.parts.map (·.2)).flatten ++ m.final.2)))
        rw [hparts]
      · rw [(chunk_frame hc (Or.inr rfl) m.final.1 (m.header ++ m.final.2)).1]
        exact ⟨rfl, hann⟩
  | cons p post =>
      obtain ⟨rfl, rfl⟩ : it = .part m p.1 p.2 ∧ its = chunkItems m post ++ allItems ms :=
        List.cons_eq_cons.mp hits
      refine ⟨_, _, _, rfl, ?_, ms, hms, Or.inr (Or.inr ⟨m, pre ++ [p], post, hm, ?_, ?_, rfl⟩)⟩
      · rw [(chunk_frame hc (Or.inl rfl) p.1 (m.header ++ p.2)).2, if_pos rfl]
        rfl
      · rw [hparts, List.append_assoc]
        rfl
      · have hdone : ((pre ++ [p]).map (·.2)).flatten = (pre.map (·.2)).flatten ++ p.2 := by
          rw [List.map_append, List.flatten_append]
          simp only [List.map_cons, List.map_nil, List.flatten_cons, List.flatten_nil,
            List.append_nil]
        have hlen : ((pre.map (·.2)).flatten ++ p.2).length ≤ 4095 := by
          rw [List.map_cons, List.flatten_cons, List.length_append, List.length_append] at hpay
          rw [List.length_append]
          omega
        rw [(chunk_frame hc (Or.inl rfl) p.1 (m.header ++ p.2)).1, hdone]
        exact ⟨rfl, hann, p.1, hpart 0 p.1 p.2 (Or.inl rfl) hlen⟩

/-- **One frame of a message keeps the channel at the frames still to come, and queues what the
    application must get for it.** -/
theorem expects_step {it : Item} {its : List Item} (he : Expects c (it :: its)) :
    ∃ status t data, it.record = .frame 6 status (t.bytes ++ data) ∧
      c.frameOut (stamped status t data) = it.out c.protocol.toUInt64 ∧
      Expects (c.afterFrame (stamped status t data)) its := by
  have hflags : ∀ {m : IsoMsg} {flags : UInt8}, flags = 0 ∨ flags = opStsEnd →
      addressBits (isoStatus flags m.low) = addressBits (isoStatus 0 m.low) ∧
      hasBit (isoStatus flags m.low) opStsExtAddr = hasBit (isoStatus 0 m.low) opStsExtAddr ∧
      hasBit (isoStatus flags m.low) opStsLoopback = false := by
    intro m flags h
    obtain ⟨-, -, -, -, -, -, -, -, -, -, h11, h12⟩ := isoStatus_bits m.low
    rcases h with rfl | rfl
    · exact ⟨rfl, rfl, h12⟩
    · exact ⟨(addressBits_low m.low).2, (ext_low m.low).2, h11⟩
  have hfirst : ∀ {m : IsoMsg} {ms : List IsoMsg}, m.WellFormed →
    (∀ m ∈ ms, m.WellFormed) → Ready c m →
      it :: its = chunkItems m m.parts ++ allItems ms →
      ∃ status t data, it.record = .frame 6 status (t.bytes ++ data) ∧
        c.frameOut (stamped status t data) = it.out c.protocol.toUInt64 ∧
        Expects (c.afterFrame (stamped status t data)) its := by
    intro m ms hm hms hr hits
    refine chunk_step hc hm hms (show m.parts = [] ++ m.parts from rfl)
      (?_) ?_ hits
    · intro flags t chunk hf hl
      obtain ⟨h1, -, h3⟩ := hflags (m := m) hf
      exact nextPartial_first hc hm hr t hl h1 h3
    · rw [hr.active]
      rfl
  obtain ⟨ms, hms, ⟨hidle, hits⟩ | ⟨m, hm, hr, hits⟩ | ⟨m, pre, post, hm, hparts, hin, hits⟩⟩ := he
  · -- a message begins
    cases ms with
    | nil => cases hits
    | cons m ms =>
        have hm := hms m List.mem_cons_self
        have hms' : ∀ m ∈ ms, m.WellFormed := fun x hx => hms x (List.mem_cons_of_mem m hx)
        have hready : Ready c m := ⟨hidle.active, fun e => by rw [hidle.announced] at e; cases e⟩
        have hits' : it :: its = m.items ++ allItems ms := hits
        unfold IsoMsg.items at hits'
        cases ha : m.announce with
        | none =>
            rw [ha] at hits'
            exact hfirst hm hms' hready hits'
        | some t =>
            rw [ha] at hits'
            obtain ⟨rfl, rfl⟩ : it = .start m t ∧ its = chunkItems m m.parts ++ allItems ms :=
              List.cons_eq_cons.mp hits'
            obtain ⟨h1, h2⟩ := start_frame hc hm t
            exact ⟨_, t, _, rfl, h2, ms, hms', Or.inr (Or.inl ⟨m, hm, h1, rfl⟩)⟩
  · exact hfirst hm hms hr hits
  · refine chunk_step hc hm hms hparts (?_) ?_ hits
    · intro flags t chunk hf hl
      obtain ⟨h1, h2, h3⟩ := hflags (m := m) hf
      exact nextPartial_more hc hm hin t hl h1 h2 h3
    · rw [hin.active]
      exact hin.announced

end Frame

/-! ## 5. A whole stream -/

/-- A record that is no frame of channel 6 and is not filed there: the LOOPBACK frames of
    channel 5 go to channel 6 while channel 5 is closed. -/
def Foreign (d : OpDevice) (r : Record) : Prop :=
  ∀ ch status body, r = .frame ch status body →
    ch ≠ 6 ∧ (ch = 5 → hasBit status opStsLoopback = true → (d.ch 5).isOpen = true)

/-- An item the channel's stream can hold: a transmit indication has its bit set, a record
    between the channel's frames is foreign, and every record fits the wire. -/
structure Item.Ok (d : OpDevice) (it : Item) : Prop where
  txInd : ∀ status t data, it = .txInd status t data → hasBit status opStsTxInd = true
  other : ∀ r, it = .other r → Foreign d r
  fits : it.record.WellFormed

/-- Hand on the records of a stream. -/
def handRecords (d : OpDevice) (its : List Item) : OpDevice :=
  its.foldl (fun d it => handOn d it.record.handed) d

/-- What the application must get for a stream. -/
def outs (protocol : UInt64) (its : List Item) : List PassThruMsg :=
  its.filterMap (Item.out protocol)

/-- A record that is not for channel 6 leaves it alone. -/
theorem handOn_foreign {d : OpDevice} {r : Record} (h : Foreign d r) :
    (handOn d r.handed).ch 6 = d.ch 6 := by
  cases r with
  | frame ch status body =>
      obtain ⟨hne, hloop⟩ := h ch status body rfl
      show (absorbFrame d (frameReply ch.val status body)).ch 6 = d.ch 6
      unfold absorbFrame
      rw [dif_pos (by rw [frameReply_channel]; exact ch.isLt)]
      simp only [frameReply_channel, frameReply_status]
      by_cases ho : (d.ch ch).isOpen = true
      · rw [if_pos ho, OpDevice.setCh_other _ _ (Ne.symm hne)]
      · rw [if_neg ho, if_neg]
        rintro ⟨e5, hl, -⟩
        have hch5 : ch = 5 := Fin.ext e5
        exact ho (hch5 ▸ hloop hch5 hl)
  | ok | error | info | pin | filter | config | periodic | fastInit | fiveBaud =>
      exact congrFun (stashReply_ch d _) 6

/-- A frame of channel 6, handed on. -/
theorem handOn_own {d : OpDevice} (hopen : (d.ch 6).isOpen = true) {it : Item} {status : UInt8}
    {t : Stamp} {data : Bytes} (hrec : it.record = .frame 6 status (t.bytes ++ data)) :
    (handOn d it.record.handed).ch 6 =
      queueOption ((d.ch 6).afterFrame (stamped status t data))
        ((d.ch 6).frameOut (stamped status t data)) := by
  rw [hrec]
  show (absorbFrame d (frameReply 6 status (t.bytes ++ data))).ch 6 = _
  rw [frameReply_stamped, ← absorbOpen_eq]
  show (absorbFrame d (stamped status t data)).ch 6 = _
  unfold absorbFrame
  have hlt : (stamped status t data).channel < 10 := (show 6 < 10 from (by decide))
  have h6 : (⟨(stamped status t data).channel, hlt⟩ : Fin 10) = 6 := rfl
  rw [dif_pos hlt]
  simp only [h6]
  rw [if_pos hopen, OpDevice.setCh_same]

theorem foreign_steady {d d' : OpDevice} (h : Steady d d') {r : Record} (hf : Foreign d r) :
    Foreign d' r := fun ch status body e =>
  ⟨(hf ch status body e).1, fun h5 hl => (h.isOpen 5).trans ((hf ch status body e).2 h5 hl)⟩

theorem Item.Ok.steady {d d' : OpDevice} (h : Steady d d') {it : Item} (hi : it.Ok d) : it.Ok d' :=
  ⟨hi.txInd, fun r e => foreign_steady h (hi.other r e), hi.fits⟩

theorem IsoOpen.steady {d d' : OpDevice} (h : Steady d d') (hc : IsoOpen (d.ch 6)) :
    IsoOpen (d'.ch 6) := by
  refine ⟨(h.isOpen 6).trans hc.isOpen, ?_⟩
  unfold OpChannel.base
  rw [h.protocol 6]
  exact hc.base

/-- What an item does to the channel's reassembly, and what it puts in the queue. -/
theorem item_step {d : OpDevice} (hc : IsoOpen (d.ch 6)) {it : Item} (hok : it.Ok d)
    {its : List Item}
    (he : Expects (d.ch 6) ((it :: its).filter Item.own)) :
    ∃ c, (c.rq = (d.ch 6).rq ∧ c.rqHead = (d.ch 6).rqHead ∧ c.rqTail = (d.ch 6).rqTail ∧
        c.rqUsed = (d.ch 6).rqUsed ∧ c.qcount = (d.ch 6).qcount ∧ c.dropped = (d.ch 6).dropped) ∧
      (handOn d it.record.handed).ch 6 = queueOption c (it.out (d.ch 6).protocol.toUInt64) ∧
      Expects c (its.filter Item.own) := by
  cases hown : it.own with
  | true =>
      rw [List.filter_cons_of_pos hown] at he
      obtain ⟨status, t, data, hrec, hout, hexp⟩ := expects_step hc he
      refine ⟨_, (d.ch 6).afterFrame_ring _, ?_, hexp⟩
      rw [handOn_own hc.isOpen hrec, hout]
  | false =>
      rw [List.filter_cons_of_neg (by rw [hown]; exact Bool.false_ne_true)] at he
      cases it with
      | other r =>
          exact ⟨d.ch 6, ⟨rfl, rfl, rfl, rfl, rfl, rfl⟩, handOn_foreign (hok.other r rfl), he⟩
      | txInd status t data =>
          have hl : data.length ≤ 4128 := by
            have hfit := hok.fits.frameBody 6 status _ rfl
            rw [List.length_append] at hfit
            omega
          obtain ⟨h1, h2⟩ := txInd_frame hc (hok.txInd status t data rfl) t hl
          refine ⟨d.ch 6, ⟨rfl, rfl, rfl, rfl, rfl, rfl⟩, ?_, he⟩
          have hrec : (Item.txInd status t data).record = .frame 6 status (t.bytes ++ data) := rfl
          rw [handOn_own hc.isOpen hrec, h1, h2]
      | start m t => cases hown
      | part m t chunk => cases hown
      | last m => cases hown

theorem queueOption_reassembly (c : OpChannel) (m : Option PassThruMsg) :
    (queueOption c m).protocol = c.protocol ∧ (queueOption c m).partialMsg = c.partialMsg ∧
      (queueOption c m).partialActive = c.partialActive ∧
      (queueOption c m).extAnnounced = c.extAnnounced := by
  cases m with
  | none => exact ⟨rfl, rfl, rfl, rfl⟩
  | some m =>
      show (queuePush c m).protocol = c.protocol ∧ (queuePush c m).partialMsg = c.partialMsg ∧
        (queuePush c m).partialActive = c.partialActive ∧ (queuePush c m).extAnnounced =
          c.extAnnounced
      unfold queuePush
      cases queueRefuses c m with
      | true => exact ⟨rfl, rfl, rfl, rfl⟩
      | false => exact ⟨rfl, rfl, rfl, rfl⟩

/-- `Expects` is about the reassembly alone. -/
theorem Expects.congr {c c' : OpChannel} {its : List Item} (h0 : c'.protocol = c.protocol)
    (h1 : c'.partialMsg = c.partialMsg) (h2 : c'.partialActive = c.partialActive)
    (h3 : c'.extAnnounced = c.extAnnounced) (h : Expects c its) : Expects c' its := by
  obtain ⟨ms, hms, ⟨hi, e⟩ | ⟨m, hm, hr, e⟩ | ⟨m, pre, post, hm, hp, hin, e⟩⟩ := h
  · exact ⟨ms, hms, Or.inl ⟨⟨h2.trans hi.active, h3.trans hi.announced⟩, e⟩⟩
  · exact ⟨ms, hms, Or.inr
      (Or.inl ⟨m, hm, ⟨h2.trans hr.active, fun x => hr.announced (h3 ▸ x)⟩, e⟩)⟩
  · obtain ⟨t, ht⟩ := hin.partialMsg
    exact ⟨ms, hms, Or.inr (Or.inr ⟨m, pre, post, hm, hp,
      ⟨h2.trans hin.active, h3.trans hin.announced, t, by rw [h1, h0, ht]⟩, e⟩)⟩

/-- **A stream of well-formed messages with anything foreign between its frames.** The queue
    gets what the application must get, in order, and no reassembly is left open. -/
theorem stream_reassembled : ∀ (its : List Item) (d : OpDevice) (q : List PassThruMsg),
    IsoOpen (d.ch 6) → (∀ it ∈ its, it.Ok d) → Expects (d.ch 6) (its.filter Item.own) →
    Holds (d.ch 6) q → total cost (q ++ outs (d.ch 6).protocol.toUInt64 its) ≤ opRxqBytes →
    Holds ((handRecords d its).ch 6) (q ++ outs (d.ch 6).protocol.toUInt64 its) ∧
      ((handRecords d its).ch 6).dropped = (d.ch 6).dropped ∧ Expects ((handRecords d its).ch 6) []
  | [], d, q, _, _, he, hq, _ => by
      refine ⟨?_, rfl, he⟩
      show Holds (d.ch 6) (q ++ [])
      rw [List.append_nil]
      exact hq
  | it :: its, d, q, hc, hok, he, hq, hroom => by
      obtain ⟨c, ⟨h1, h2, h3, h4, h5, h6⟩, hch, hexp⟩ := item_step hc (hok it List.mem_cons_self) he
      have hst := handOn_steady d it.record.handed
      have hp : ((handOn d it.record.handed).ch 6).protocol = (d.ch 6).protocol := hst.protocol 6
      have hexp' : Expects ((handOn d it.record.handed).ch 6) (its.filter Item.own) := by
        obtain ⟨g0, g1, g2, g3⟩ := queueOption_reassembly c (it.out (d.ch 6).protocol.toUInt64)
        rw [hch]
        exact hexp.congr g0 g1 g2 g3
      have hc' := hq.congr h1 h2 h3 h4 h5
      have ih := stream_reassembled its (handOn d it.record.handed)
      rw [hp] at ih
      have hok' : ∀ x ∈ its, x.Ok (handOn d it.record.handed) := fun x hx =>
        (hok x (List.mem_cons_of_mem it hx)).steady hst
      cases ho : it.out (d.ch 6).protocol.toUInt64 with
      | none =>
          have houts : outs (d.ch 6).protocol.toUInt64 (it :: its) =
            outs (d.ch 6).protocol.toUInt64 its :=
            List.filterMap_cons_none ho
          rw [houts] at hroom ⊢
          rw [ho] at hch
          have hch' : (handOn d it.record.handed).ch 6 = c := hch
          obtain ⟨r1, r2, r3⟩ := ih q (hc.steady hst) hok' hexp' (by rw [hch']; exact hc') hroom
          exact ⟨r1, r2.trans (by rw [hch', h6]), r3⟩
      | some m =>
          have houts : outs (d.ch 6).protocol.toUInt64 (it :: its) =
              m :: outs (d.ch 6).protocol.toUInt64 its := List.filterMap_cons_some ho
          have hsplit : q ++ m :: outs (d.ch 6).protocol.toUInt64 its =
              (q ++ [m]) ++ outs (d.ch 6).protocol.toUInt64 its := by simp
          rw [houts, hsplit] at hroom ⊢
          rw [ho] at hch
          have hch' : (handOn d it.record.handed).ch 6 = queuePush c m := hch
          have hr : queueRefuses c m = false := by
            refine Bool.eq_false_iff.mpr fun e => (queueRefuses_iff hc' m).mp e ?_
            rw [total_append, total_append, total_cons, total_nil] at hroom
            omega
          obtain ⟨r1, r2, r3⟩ := ih (q ++ [m]) (hc.steady hst) hok' hexp'
            (by rw [hch']; exact holds_push hc' hr) hroom
          exact ⟨r1, r2.trans (by rw [hch', queuePush_dropped hr, h6]), r3⟩

/-- **Reassembly undoes the cable's segmentation.** Whatever the cut into chunks, the header
    width and what stands between the frames, the queue gets one indication for each START and
    each transmit indication and one whole message for each message, in order; nothing is
    dropped and the channel is between messages again. -/
theorem iso15765_reassembled (d : OpDevice) (q : List PassThruMsg) (ms : List IsoMsg)
    (its : List Item)
    (hopen : IsoOpen (d.ch 6)) (hidle : Idle (d.ch 6)) (hms : ∀ m ∈ ms, m.WellFormed)
    (hown : its.filter Item.own = allItems ms) (hok : ∀ it ∈ its, it.Ok d) (hq : Holds (d.ch 6) q)
    (hroom : total cost (q ++ outs (d.ch 6).protocol.toUInt64 its) ≤ opRxqBytes) :
    Holds ((handRecords d its).ch 6) (q ++ outs (d.ch 6).protocol.toUInt64 its) ∧
      ((handRecords d its).ch 6).dropped = (d.ch 6).dropped ∧ Idle ((handRecords d its).ch 6) := by
  obtain ⟨h1, h2, ms', hms', h3⟩ := stream_reassembled its d q hopen hok
    ⟨ms, hms, Or.inl ⟨hidle, hown⟩⟩ hq hroom
  refine ⟨h1, h2, ?_⟩
  -- a message still to come has a last frame
  rcases h3 with ⟨hi, -⟩ | ⟨m, -, -, e⟩ | ⟨m, pre, post, -, -, -, e⟩
  · exact hi
  · have := congrArg List.length e
    simp [chunkItems] at this
  · have := congrArg List.length e
    simp [chunkItems] at this

/-- An answer of ten bytes that the cable announces and cuts into three frames. -/
def sampleMsg : IsoMsg :=
  { low := 0, header := [0x00, 0x00, 0x07, 0xe8], announce := some ⟨0, 0, 0, 1⟩
    parts := [(⟨0, 0, 0, 2⟩, [0x62, 0xf1, 0x90, 0x57]), (⟨0, 0, 0, 3⟩, [0x56, 0x57, 0x5a])]
    final := (⟨0, 0, 0, 4⟩, [0x5a, 0x5a, 0x31]) }

/-- An answer of four bytes in one frame, from a 29-bit id. -/
def sampleShort : IsoMsg :=
  { low := 2, header := [0x18, 0xda, 0xf1, 0x10], announce := none, parts := []
    final := (⟨0, 0, 0, 5⟩, [0x41, 0x00, 0xbe, 0x3e]) }

/-- Between the frames of the first answer: a K-line frame, a transmit indication, the reply to a
    command, and a frame of channel 5. -/
def sampleItems : List Item :=
  [.txInd 0x10 ⟨0, 0, 0, 0⟩ [0x00, 0x00, 0x07, 0xe0], .start sampleMsg ⟨0, 0, 0, 1⟩,
    .other (.frame 3 0x00 [0xc1, 0xef]),
    .part sampleMsg ⟨0, 0, 0, 2⟩ [0x62, 0xf1, 0x90, 0x57],
    .txInd 0x10 ⟨0, 0, 0, 2⟩ [0x00, 0x00, 0x07, 0xe0], .other (.ok [300]),
    .part sampleMsg ⟨0, 0, 0, 3⟩ [0x56, 0x57, 0x5a],
    .other (.frame 5 0x00 [0, 0, 0, 3, 0, 0, 0x07, 0xe8, 0x22]), .last sampleMsg,
    .last sampleShort]

/-- An item that is no transmit indication. -/
theorem Item.Ok.plain {d : OpDevice} {it : Item} (hi : ∀ status t data, it ≠ .txInd status t data)
    (ho : ∀ r, it = .other r → Foreign d r) (hw : it.record.WellFormed) : it.Ok d :=
  ⟨fun status t data e => absurd e (hi status t data), ho, hw⟩

theorem sampleItems_ok : ∀ it ∈ sampleItems, it.Ok sampleDevice := by
  intro it hit
  have hind : ∀ t, (Item.txInd 0x10 t [0x00, 0x00, 0x07, 0xe0]).Ok sampleDevice := by
    intro t
    refine ⟨fun status t data e => ?_, fun r e => (nomatch e), ?_⟩
    · cases e
      rfl
    · exact frame_wellFormed 6 0x10 (show 8 ≤ 254 by decide)
  have hother : ∀ r, Foreign sampleDevice r → r.WellFormed → (Item.other r).Ok sampleDevice := by
    intro r hf hw
    refine .plain (fun _ _ _ e => (nomatch e)) (fun r' e => ?_) hw
    cases e
    exact hf
  have hframe : ∀ (ch : Fin 10) (status : UInt8) (body : Bytes), ch ≠ 6 →
      hasBit status opStsLoopback = false → Foreign sampleDevice (.frame ch status body) := by
    intro ch status body hch hl ch' status' body' e
    cases e
    exact ⟨hch, fun _ h => absurd (hl.symm.trans h) (by decide)⟩
  simp only [sampleItems, List.mem_cons, List.not_mem_nil, or_false] at hit
  rcases hit with rfl | rfl | rfl | rfl | rfl | rfl | rfl | rfl | rfl | rfl
  · exact hind _
  · exact .plain (fun _ _ _ e => (nomatch e)) (fun _ e => (nomatch e))
      (frame_wellFormed 6 _ (by decide))
  · exact hother _ (hframe 3 _ _ (by decide) rfl) (frame_wellFormed 3 _ (by decide))
  · exact .plain (fun _ _ _ e => (nomatch e)) (fun _ e => (nomatch e))
      (frame_wellFormed 6 _ (by decide))
  · exact hind _
  · exact hother _ (fun ch status body e => (nomatch e))
      ⟨fun ch status body e => (nomatch e), by decide, by decide, by decide, trivial⟩
  · exact .plain (fun _ _ _ e => (nomatch e)) (fun _ e => (nomatch e))
      (frame_wellFormed 6 _ (by decide))
  · exact hother _ (hframe 5 _ _ (by decide) rfl) (frame_wellFormed 5 _ (by decide))
  · exact .plain (fun _ _ _ e => (nomatch e)) (fun _ e => (nomatch e))
      (frame_wellFormed 6 _ (by decide))
  · exact .plain (fun _ _ _ e => (nomatch e)) (fun _ e => (nomatch e))
      (frame_wellFormed 6 _ (by decide))

theorem sampleDevice_holds : Holds (sampleDevice.ch 6) [] := (sim_start sampleDevice_start).holds

/-- The queue receives the first frame's indication, two transmit indications and both answers. -/
theorem iso15765_reassembled_sample :
    Holds ((handRecords sampleDevice sampleItems).ch 6)
      [indication 6 ⟨0, 0, 0, 0⟩ (txMsgType ||| txDone) [0x00, 0x00, 0x07, 0xe0],
        indication 6 ⟨0, 0, 0, 1⟩ iso15765FirstFrame [0x00, 0x00, 0x07, 0xe8],
        indication 6 ⟨0, 0, 0, 2⟩ (txMsgType ||| txDone) [0x00, 0x00, 0x07, 0xe0],
        wholeMsg 6 ⟨0, 0, 0, 4⟩ 0
          [0x00, 0x00, 0x07, 0xe8, 0x62, 0xf1, 0x90, 0x57, 0x56, 0x57, 0x5a, 0x5a, 0x5a, 0x31],
        wholeMsg 6 ⟨0, 0, 0, 5⟩ can29BitId
          [0x18, 0xda, 0xf1, 0x10, 0x41, 0x00, 0xbe, 0x3e]] ∧
      ((handRecords sampleDevice sampleItems).ch 6).dropped = 0 ∧
      Idle ((handRecords sampleDevice sampleItems).ch 6) :=
  iso15765_reassembled sampleDevice [] [sampleMsg, sampleShort] sampleItems ⟨rfl, rfl⟩ ⟨rfl, rfl⟩
    (fun m hm => by
      rcases List.mem_cons.mp hm with rfl | hm
      · exact ⟨rfl, by decide⟩
      · rw [List.mem_singleton.mp hm]
        exact ⟨rfl, by decide⟩) rfl sampleItems_ok sampleDevice_holds (by decide)

/-- The echo of a transmit, as the cable reports it on raw CAN channel 5. -/
def sampleEcho : Record := .frame 5 0x20 [0, 0, 0, 0, 0, 0, 0x07, 0xe0, 0, 0, 0, 0]

/-- **A foreign frame can put a message in the queue**: the LOOPBACK frames of channel 5, while
    it is closed, are delivered to the ISO 15765 channel. -/
theorem loopback_is_delivered : ¬∀ (d : OpDevice) (q : List PassThruMsg) (ms : List IsoMsg)
    (its : List Item), IsoOpen (d.ch 6) → Idle (d.ch 6) → (∀ m ∈ ms, m.WellFormed) →
    its.filter Item.own = allItems ms →
    (∀ it ∈ its, (∀ status t data, it = .txInd status t data → hasBit status opStsTxInd = true) ∧
      (∀ r, it = .other r → ∀ ch status body, r = .frame ch status body → ch ≠ 6) ∧
      it.record.WellFormed) →
    Holds (d.ch 6) q → total cost (q ++ outs (d.ch 6).protocol.toUInt64 its) ≤ opRxqBytes →
    Holds ((handRecords d its).ch 6) (q ++ outs (d.ch 6).protocol.toUInt64 its) := by
  intro hall
  have h := hall sampleDevice [] [] [.other sampleEcho] ⟨rfl, rfl⟩ ⟨rfl, rfl⟩
    (fun m hm => absurd hm List.not_mem_nil) rfl (fun it hit => by
      rw [List.mem_singleton.mp hit]
      refine ⟨fun status t data e => (nomatch e), ?_, ?_⟩
      · intro r e ch status body e'
        cases e
        cases e'
        decide
      · exact ⟨fun ch status body
          e => by cases e; decide, by decide, by decide, by decide, trivial⟩)
    sampleDevice_holds (by decide)
  have hcount : ((handRecords sampleDevice [.other sampleEcho]).ch 6).qcount = 1 := by decide
  rw [h.count] at hcount
  cases hcount

end Openport
