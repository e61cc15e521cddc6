/-
  File:      Openport/Device/Queue.lean
  Subject:   What a channel's byte ring means: the list of the messages in it.

  `Holds c q` is the representation invariant: the used part of the ring is the
  headers and data of the messages of `q`, one after the other, and the counters
  agree with it. Each operation on the ring is then one on the list.
-/
import Openport.Device.Channel
import Openport.Lib.BoundedFifo

namespace Openport

open Lib.Ring Lib.BoundedFifo

/-! ## 1. A message in the ring -/

/-- The bytes a message takes in the ring. -/
def cost (m : PassThruMsg) : Nat := qhdrSize + m.size

/-- A message as it lies in the ring. -/
def encode (m : PassThruMsg) : List UInt8 := (qhdrOf m).toBytes ++ m.bytes m.size

/-- The queue of messages as it lies in the ring. -/
def encodeAll (q : List PassThruMsg) : List UInt8 := (q.map encode).flatten

/-- What the queue gives back for a message: its fields as 32 bits hold them, the bytes that
    count, and zeros behind them. -/
def delivered (m : PassThruMsg) : PassThruMsg :=
  { protocolID := m.protocolID.toUInt32.toUInt64, rxStatus := m.rxStatus.toUInt32.toUInt64,
    txFlags := m.txFlags.toUInt32.toUInt64, timestamp := m.timestamp.toUInt32.toUInt64,
    dataSize := (UInt32.ofNat m.size).toUInt64,
    extraDataIndex := m.extraDataIndex.toUInt32.toUInt64, data := dataOf (m.bytes m.size) }

/-- `p` is the message `m`: the same six fields, the same `DataSize` bytes, zeros behind them. -/
structure SameMessage (m p : PassThruMsg) : Prop where
  protocolID : p.protocolID = m.protocolID
  rxStatus : p.rxStatus = m.rxStatus
  txFlags : p.txFlags = m.txFlags
  timestamp : p.timestamp = m.timestamp
  dataSize : p.dataSize = m.dataSize
  extraDataIndex : p.extraDataIndex = m.extraDataIndex
  data : ∀ i, i < m.dataSize.toNat → p.data i = m.data i
  rest : ∀ i, m.dataSize.toNat ≤ i → p.data i = 0

theorem encodeAll_append (q : List PassThruMsg) (m : PassThruMsg) :
    encodeAll (q ++ [m]) = encodeAll q ++ encode m := by
  unfold encodeAll
  rw [List.map_append, List.flatten_append]
  simp only [List.map_cons, List.map_nil, List.flatten_cons, List.flatten_nil, List.append_nil]

theorem narrow_wide {x : UInt64} (h : x.toNat < 2 ^ 32) : x.toUInt32.toUInt64 = x := by
  refine UInt64.toNat_inj.mp ?_
  rw [UInt32.toNat_toUInt64, UInt64.toNat_toUInt32]
  exact Nat.mod_eq_of_lt h

/-- The size a header carries. -/
theorem size_word (m : PassThruMsg) : (UInt32.ofNat m.size).toNat = m.size := by
  have h : m.size ≤ 4128 := m.size_le
  rw [UInt32.toNat_ofNat']
  omega

/-- **A message that fits comes back as it went in.** -/
theorem delivered_same {m : PassThruMsg} (h : m.Fits) : SameMessage m (delivered m) := by
  have hsize : m.size = m.dataSize.toNat := Nat.min_eq_left h.dataSize
  have hsz : (delivered m).dataSize = m.dataSize := by
    refine UInt64.toNat_inj.mp ?_
    show (UInt32.ofNat m.size).toUInt64.toNat = _
    rw [UInt32.toNat_toUInt64, size_word, hsize]
  refine ⟨narrow_wide h.protocolID, narrow_wide h.rxStatus, narrow_wide h.txFlags,
    narrow_wide h.timestamp, hsz, narrow_wide h.extraDataIndex, ?_, ?_⟩
  · intro i hi
    show dataOf (m.bytes m.size) i = m.data i
    rw [dataOf_bytes, if_pos (hsize ▸ hi)]
  · intro i hi
    show dataOf (m.bytes m.size) i = 0
    rw [dataOf_bytes, if_neg (by omega)]

/-! ## 2. The representation invariant -/

/-- The channel's ring holds the messages `q`. -/
structure Holds (c : OpChannel) (q : List PassThruMsg) : Prop where
  buffer : ∃ m, c.rq = some m ∧ content opRxqBytes m c.rqHead c.rqUsed = encodeAll q
  head : c.rqHead < opRxqBytes
  used : c.rqUsed = total cost q
  fits : c.rqUsed ≤ opRxqBytes
  tail : c.rqTail = (c.rqHead + c.rqUsed) % opRxqBytes
  count : c.qcount = q.length

theorem opRxqBytes_pos : 0 < opRxqBytes := by decide

/-- An empty ring holds nothing, whatever its buffer is filled with. -/
theorem holds_empty {c : OpChannel} {m : Mem UInt8} (hb : c.rq = some m) (hh : c.rqHead = 0)
    (ht : c.rqTail = 0) (hu : c.rqUsed = 0) (hc : c.qcount = 0) : Holds c [] := by
  refine ⟨⟨m, hb, ?_⟩, ?_, hu, ?_, ?_, hc⟩
  · rw [hu]
    rfl
  · rw [hh]
    exact opRxqBytes_pos
  · rw [hu]
    exact Nat.zero_le _
  · rw [ht, hh, hu]
    rfl

/-- The invariant is about the ring alone. -/
theorem Holds.congr {c c' : OpChannel} {q : List PassThruMsg} (h : Holds c q) (h1 : c'.rq = c.rq)
    (h2 : c'.rqHead = c.rqHead) (h3 : c'.rqTail = c.rqTail) (h4 : c'.rqUsed = c.rqUsed)
    (h5 : c'.qcount = c.qcount) : Holds c' q := by
  obtain ⟨⟨m, hb, hc⟩, hhead, hused, hfits, htail, hcount⟩ := h
  exact ⟨⟨m, h1 ▸ hb, by rw [h2, h4]; exact hc⟩, h2 ▸ hhead, h4 ▸ hused, h4 ▸ hfits,
    by rw [h3, h2, h4]; exact htail, h5 ▸ hcount⟩

/-! ## 3. Pushing -/

/-- The ring refuses a message exactly when it does not fit behind those it holds. -/
theorem queueRefuses_iff {c : OpChannel} {q : List PassThruMsg} (h : Holds c q) (m : PassThruMsg) :
    queueRefuses c m = true ↔ ¬total cost q + cost m ≤ opRxqBytes := by
  obtain ⟨mem, hb, -⟩ := h.buffer
  unfold queueRefuses
  rw [hb, h.used]
  show (false || decide (opRxqBytes < total cost q + qhdrSize + m.size)) = true ↔ _
  rw [Bool.false_or, decide_eq_true_eq]
  unfold cost
  omega

/-- What accepting a message does to the channel. -/
theorem queuePush_accepted {c : OpChannel} {m : PassThruMsg} {mem : Mem UInt8}
    (hb : c.rq = some mem)
    (hr : queueRefuses c m = false) : queuePush c m =
      { c with
        rq := some (put opRxqBytes (put opRxqBytes mem c.rqTail (qhdrOf m).toBytes)
          ((c.rqTail + qhdrSize) % opRxqBytes) (m.bytes m.size))
        rqTail := ((c.rqTail + qhdrSize) % opRxqBytes + m.size) % opRxqBytes
        rqUsed := c.rqUsed + cost m
        qcount := c.qcount + 1 } := by
  unfold queuePush ringPut
  rw [hr, hb, PassThruMsg.bytes_length]
  rfl

/-- **A message that fits is put at the end of the queue.** -/
theorem holds_push {c : OpChannel} {q : List PassThruMsg} (h : Holds c q) {m : PassThruMsg}
    (hr : queueRefuses c m = false) : Holds (queuePush c m) (q ++ [m]) := by
  obtain ⟨mem, hb, hcont⟩ := h.buffer
  have hroom : c.rqUsed + (qhdrSize + m.size) ≤ opRxqBytes := by
    rw [h.used]
    refine Classical.byContradiction ?_
    intro hn
    have ht := (queueRefuses_iff h m).mpr hn
    rw [hr] at ht
    cases ht
  have htail1 : (c.rqTail + qhdrSize) % opRxqBytes =
    (c.rqHead + (c.rqUsed + qhdrSize)) % opRxqBytes := by
    rw [h.tail, Nat.mod_add_mod, Nat.add_assoc]
  -- the header goes behind the queue, the data behind the header
  have h1 := content_put mem c.rqUsed (qhdrOf m).toBytes h.head
    (by rw [OpQhdr.toBytes_length]; omega)
  have h2 := content_put (put opRxqBytes mem c.rqTail (qhdrOf m).toBytes) (c.rqUsed + qhdrSize)
    (m.bytes m.size) h.head (by rw [PassThruMsg.bytes_length]; omega)
  rw [← h.tail, OpQhdr.toBytes_length, hcont] at h1
  rw [PassThruMsg.bytes_length, h1, ← htail1] at h2
  rw [queuePush_accepted hb hr]
  refine ⟨⟨_, rfl, ?_⟩, h.head, ?_, hroom, ?_, ?_⟩
  · show content opRxqBytes _ c.rqHead (c.rqUsed + (qhdrSize + m.size)) = _
    rw [← Nat.add_assoc, h2, encodeAll_append, List.append_assoc]
    rfl
  · show c.rqUsed + cost m = _
    rw [total_append, total_cons, total_nil, h.used]
    rfl
  · show ((c.rqTail + qhdrSize) % opRxqBytes + m.size) % opRxqBytes =
      (c.rqHead + (c.rqUsed + (qhdrSize + m.size))) % opRxqBytes
    rw [htail1, Nat.mod_add_mod]
    congr 1
    omega
  · show c.qcount + 1 = _
    rw [h.count, List.length_append]
    rfl

/-- A refused message changes the count of refused ones and nothing else. -/
theorem queuePush_refused {c : OpChannel} {m : PassThruMsg} (hr : queueRefuses c m = true) :
    queuePush c m = { c with dropped := c.dropped + 1 } := by
  unfold queuePush
  rw [hr]
  rfl

theorem queuePush_dropped {c : OpChannel} {m : PassThruMsg} (hr : queueRefuses c m = false) :
    (queuePush c m).dropped = c.dropped := by
  unfold queuePush
  rw [hr]
  rfl

/-- A push keeps the buffer. -/
theorem queuePush_buffer (c : OpChannel) (m : PassThruMsg) :
    (queuePush c m).rq.isSome = c.rq.isSome := by
  cases hr : queueRefuses c m with
  | true =>
      rw [queuePush_refused hr]
  | false =>
      obtain ⟨mem, hm⟩ : ∃ mem, c.rq = some mem := by
        unfold queueRefuses at hr
        cases hq : c.rq with
        | none =>
            rw [hq] at hr
            cases hr
        | some mem => exact ⟨mem, rfl⟩
      rw [queuePush_accepted hm hr, hm]
      rfl

/-! ## 4. Popping -/

/-- **The oldest message comes back, and the ring holds the rest.** -/
theorem holds_pop {c : OpChannel} {m : PassThruMsg} {q : List PassThruMsg} (h : Holds c (m :: q)) :
    (queuePop c).1 = delivered m ∧ Holds (queuePop c).2 q := by
  obtain ⟨mem, hb, hcont⟩ := h.buffer
  have hused : c.rqUsed = qhdrSize + m.size + total cost q := by
    rw [h.used, total_cons]
    rfl
  have hfits := h.fits
  have hmax : m.size ≤ 4128 := m.size_le
  -- the ring splits into the header, the data and the other messages
  have hall : encodeAll (m :: q) = (qhdrOf m).toBytes ++ (m.bytes m.size ++ encodeAll q) := by
    show encode m ++ encodeAll q = _
    unfold encode
    rw [List.append_assoc]
  rw [hused, Nat.add_assoc, content_add, hall] at hcont
  obtain ⟨hhdr, hrest⟩ := List.append_inj hcont (by rw [content_length, OpQhdr.toBytes_length])
  rw [content_add] at hrest
  obtain ⟨hdat, hq⟩ := List.append_inj hrest (by rw [content_length, PassThruMsg.bytes_length])
  have hhead1 : (c.rqHead + qhdrSize) % opRxqBytes < opRxqBytes := Nat.mod_lt _ opRxqBytes_pos
  have hg : get opRxqBytes mem c.rqHead qhdrSize = (qhdrOf m).toBytes := by
    rw [get_eq mem h.head (by decide), hhdr]
  have hsz : (qhdrOf m).size.toNat = m.size := size_word m
  have hd : get opRxqBytes mem ((c.rqHead + qhdrSize) % opRxqBytes) m.size = m.bytes m.size := by
    rw [get_eq mem hhead1 (by rw [hused] at hfits; omega), hdat]
  have hpop : queuePop c = (delivered m,
      { c with rqHead := ((c.rqHead + qhdrSize) % opRxqBytes + m.size) % opRxqBytes
               rqUsed := c.rqUsed - (qhdrSize + m.size), qcount := c.qcount - 1 }) := by
    unfold queuePop ringGet
    simp only [hb, hg, OpQhdr.ofBytes_toBytes, hsz, hd]
    rfl
  rw [hpop]
  refine ⟨rfl, ⟨⟨mem, hb, ?_⟩, Nat.mod_lt _ opRxqBytes_pos, ?_, ?_, ?_, ?_⟩⟩
  · show content opRxqBytes mem _ (c.rqUsed - (qhdrSize + m.size)) = _
    rw [show c.rqUsed - (qhdrSize + m.size) = total cost q by omega]
    exact hq
  · show c.rqUsed - (qhdrSize + m.size) = _
    omega
  · show c.rqUsed - (qhdrSize + m.size) ≤ _
    omega
  · show c.rqTail = (((c.rqHead + qhdrSize) % opRxqBytes + m.size) % opRxqBytes +
      (c.rqUsed - (qhdrSize + m.size))) % opRxqBytes
    rw [h.tail, Nat.mod_add_mod, Nat.add_assoc ((c.rqHead + qhdrSize) % opRxqBytes),
      Nat.mod_add_mod]
    congr 1
    omega
  · show c.qcount - 1 = _
    rw [h.count]
    rfl

end Openport
