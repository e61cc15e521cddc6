/-
  File:      Openport/Device/Gathering.lean
  Subject:   The message a run of frames brings to a channel that reassembles, as
             the frames say it.

  `Gathering` is the message under way, with no buffer that could be too small;
  `Underway` ties the channel's reassembly to it, and `FrameRun` keeps beside the
  device what was put in one channel's queue and what found no room there. The
  last section is one message whole: its announcement, its data frames, its END.
-/
import Openport.Device.Apart
import Openport.Device.Iso15765

namespace Openport

open Lib.Ring Lib.BoundedFifo

/-! ## 1. What the frames of a message carry -/

/-- Whether a frame says its message has an extended address. -/
def OpReply.saysExt (r : OpReply) : Bool := hasBit r.status opStsExtAddr

/-- Bytes of the CAN header: the id, and the address byte of an extended address. -/
def headerLen (ext : Bool) : Nat := if ext then 5 else 4

/-- What a frame brings to the message `older` began, newest frame first: all its bytes, but for
    the header that a further ISO 15765 frame repeats, if it is long enough to have one. -/
def brought (iso announced : Bool) (older : List OpReply) (r : OpReply) : Bytes :=
  let header := headerLen (announced || (r :: older).any OpReply.saysExt)
  if older ≠ [] ∧ iso = true ∧ header ≤ r.bytes.length then r.bytes.drop header else r.bytes

/-- All that the frames of a message brought, newest frame first. -/
def carried (iso announced : Bool) : List OpReply → Bytes
  | [] => []
  | r :: older => carried iso announced older ++ brought iso announced older r

/-- On a K-line a frame brings all its bytes. -/
theorem brought_kLine (announced : Bool) (older : List OpReply) (r : OpReply) :
    brought false announced older r = r.bytes := by
  unfold brought
  exact if_neg fun hx => Bool.noConfusion hx.2.1

/-- A message on a K-line carries the bytes of its frames, one after the other. -/
theorem carried_kLine (announced : Bool) (rs : List OpReply) :
    carried false announced rs = (rs.reverse.map OpReply.bytes).flatten := by
  induction rs with
  | nil => rfl
  | cons r rs ih =>
      rw [carried, brought_kLine, ih, List.reverse_cons, List.map_append, List.flatten_append]
      simp only [List.map_cons, List.map_nil, List.flatten_cons, List.flatten_nil, List.append_nil]

/-- A message on ISO 15765 carries its CAN id once, when every frame repeats it. -/
theorem carried_iso {id : Bytes} (hid : id.length = 4) : ∀ (rs : List OpReply) (cs : List Bytes),
    rs ≠ [] → rs.map OpReply.bytes = cs.map (id ++ ·) → (∀ r ∈ rs, r.saysExt = false) →
    carried true false rs = id ++ cs.reverse.flatten
  | [], _, hne, _, _ => absurd rfl hne
  | r :: older, [], _, hb, _ => by cases hb
  | r :: older, c :: cs, _, hb, hext => by
      rw [List.map_cons, List.map_cons] at hb
      obtain ⟨hr, hold⟩ := List.cons.inj hb
      have hany : (r :: older).any OpReply.saysExt = false := by
        rw [List.any_eq_false]
        exact fun x hx => by rw [hext x hx]; exact Bool.false_ne_true
      have hbrought : brought true false older r =
          if older ≠ [] then r.bytes.drop 4 else r.bytes := by
        have hlen : 4 ≤ r.bytes.length := by
          rw [hr, List.length_append]
          omega
        unfold brought
        rw [hany]
        by_cases ho : older = []
        · rw [if_neg fun hx => hx.1 ho, if_neg fun hx => hx ho]
        · rw [if_pos ⟨ho, rfl, hlen⟩, if_pos ho]
          rfl
      rw [carried, hbrought, hr, List.reverse_cons, List.flatten_append]
      by_cases ho : older = []
      · rw [ho] at hold ⊢
        have hcs : cs = [] := List.map_eq_nil_iff.mp hold.symm
        rw [if_neg fun hx => hx rfl, hcs]
        simp only [carried, List.nil_append, List.reverse_nil, List.flatten_nil, List.flatten_cons,
          List.append_nil]
      · rw [if_pos ho, carried_iso hid older cs ho hold fun x hx => hext x
          (List.mem_cons_of_mem _ hx),
          ← hid, List.drop_left]
        simp only [List.flatten_cons, List.flatten_nil, List.append_nil, List.append_assoc]

/-- The message under way: whether it was announced with an extended address, and its data
    frames so far, newest first. -/
structure Gathering where
  announced : Bool := false
  frames : List OpReply := []

/-- Whether the channel's base protocol is ISO 15765. -/
def OpChannel.iso (c : OpChannel) : Bool := c.base == iso15765

/-- What has been gathered so far. -/
def Gathering.bytes (c : OpChannel) (g : Gathering) : Bytes := carried c.iso g.announced g.frames

/-- The message under way with one more data frame. -/
def Gathering.add (g : Gathering) (r : OpReply) : Gathering := { g with frames := r :: g.frames }

/-- The message under way after a frame of the channel. A START announces; it takes nothing away
    from what is there. -/
def Gathering.next (c : OpChannel) (g : Gathering) (r : OpReply) : Gathering :=
  if c.isStart r then { g with announced := r.saysExt }
  else if c.isData r then (if hasBit r.status opStsEnd then {} else g.add r)
  else g

/-! ## 2. The reassembly and the message under way -/

/-- The channel's reassembly holds the message under way, as much of it as there is room for. -/
structure Underway (c : OpChannel) (g : Gathering) : Prop where
  active : c.partialActive = true ↔ g.frames ≠ []
  announced : c.iso = true → c.partialActive = false → c.extAnnounced = g.announced
  spent : c.partialActive = true → c.extAnnounced = false
  dataSize : c.partialActive = true →
    c.partialMsg.dataSize = UInt64.ofNat ((g.bytes c).take j2534MsgDataMax).length
  data : c.partialActive = true → c.partialMsg.data = dataOf ((g.bytes c).take j2534MsgDataMax)
  address : c.iso = true → c.partialActive = true →
    (c.partialMsg.rxStatus &&& iso15765AddrType ≠ 0 ↔
      (g.announced || g.frames.any OpReply.saysExt) = true)

/-- A channel with no reassembly and no announcement has no message under way. -/
theorem underway_idle {c : OpChannel} (h1 : c.partialActive = false)
    (h2 : c.iso = true → c.extAnnounced = false) : Underway c {} := by
  have hno : ¬c.partialActive = true := by rw [h1]; exact Bool.false_ne_true
  exact ⟨⟨fun e => absurd e hno, fun e => absurd rfl e⟩, fun hiso _ => h2 hiso,
    fun e => absurd e hno,
    fun e => absurd e hno, fun e => absurd e hno, fun _ e => absurd e hno⟩

/-- Only the connection and the reassembly of a channel matter. -/
theorem Underway.congr {c c' : OpChannel} {g : Gathering} (h : Underway c g)
    (h1 : c'.protocol = c.protocol) (h2 : c'.partialActive = c.partialActive)
    (h3 : c'.extAnnounced = c.extAnnounced) (h4 : c'.partialMsg = c.partialMsg) :
    Underway c' g := by
  have hbase : c'.base = c.base := by
    unfold OpChannel.base
    rw [h1]
  have hiso : c'.iso = c.iso := by
    unfold OpChannel.iso
    rw [hbase]
  have hbytes : g.bytes c' = g.bytes c := by
    unfold Gathering.bytes
    rw [hiso]
  obtain ⟨k1, k2, k3, k5, k6, k7⟩ := h
  refine ⟨?_, ?_, ?_, ?_, ?_, ?_⟩
  · rw [h2]
    exact k1
  · rw [hiso, h2, h3]
    exact k2
  · rw [h2, h3]
    exact k3
  · rw [h2, h4, hbytes]
    exact k5
  · rw [h2, h4, hbytes]
    exact k6
  · rw [hiso, h2, h4]
    exact k7

/-- A frame's bytes behind those already there, as many as there is room for. -/
theorem extendPartial_take {p : PassThruMsg} (xs : Bytes)
    (hs : p.dataSize = UInt64.ofNat (xs.take j2534MsgDataMax).length)
    (hd : p.data = dataOf (xs.take j2534MsgDataMax)) (bs : Bytes) (ts : UInt32) (bits : UInt64) :
    extendPartial p ts bits bs =
      { p with timestamp := ts.toUInt64, rxStatus := p.rxStatus ||| bits
               data := dataOf ((xs ++ bs).take j2534MsgDataMax)
               dataSize := UInt64.ofNat ((xs ++ bs).take j2534MsgDataMax).length
               extraDataIndex := UInt64.ofNat ((xs ++ bs).take j2534MsgDataMax).length } := by
  have hn : p.dataSize.toNat = (xs.take j2534MsgDataMax).length := by
    rw [hs]
    exact toNat_dataSize (List.length_take_le _ _)
  have hleft : j2534MsgDataMax - (xs.take j2534MsgDataMax).length =
    j2534MsgDataMax - xs.length := by
    rw [List.length_take]
    omega
  have hall : xs.take j2534MsgDataMax ++ bs.take (j2534MsgDataMax - xs.length) =
      (xs ++ bs).take j2534MsgDataMax := List.take_append.symm
  have hsize : p.dataSize + UInt64.ofNat (bs.take (j2534MsgDataMax - xs.length)).length =
      UInt64.ofNat ((xs ++ bs).take j2534MsgDataMax).length := by
    rw [hs, ← hall, List.length_append, UInt64.ofNat_add]
  unfold extendPartial
  simp only [hn, hleft, hsize, hd, store_dataOf, hall]

/-- One address bit of two words. -/
theorem addr_or (a b : UInt64) : (a ||| b) &&& iso15765AddrType ≠ 0 ↔
    a &&& iso15765AddrType ≠ 0 ∨ b &&& iso15765AddrType ≠ 0 := by
  have hdist : (a ||| b) &&& iso15765AddrType =
      (a &&& iso15765AddrType) ||| (b &&& iso15765AddrType) := by
    refine UInt64.toNat_inj.mp ?_
    rw [UInt64.toNat_and, UInt64.toNat_or, UInt64.toNat_or, UInt64.toNat_and, UInt64.toNat_and,
      Nat.and_or_distrib_right]
  rw [hdist, Ne, UInt64.or_eq_zero_iff]
  exact not_and_or

/-- A message's array starts with the bytes it was filled with. -/
theorem bytes_dataOf {m : PassThruMsg} {bs : Bytes} (h : m.data = dataOf bs) :
    m.bytes bs.length = bs := by
  refine List.ext_getElem (PassThruMsg.bytes_length _ _) ?_
  intro k hk hk'
  have e : (m.bytes bs.length)[k] = m.data k := by
    simp only [PassThruMsg.bytes, List.getElem_map, List.getElem_range]
  rw [e, h]
  unfold dataOf
  rw [List.getD_eq_getElem?_getD, List.getElem?_eq_getElem hk']
  rfl

section Frame

variable {c : OpChannel}

theorem iso_iff : c.iso = true ↔ c.base = iso15765 := beq_iff_eq

/-- `ext` of `absorb_frame` is the address bit of a frame on ISO 15765. -/
theorem ext_eq (r : OpReply) : c.ext r = if c.iso = true ∧ r.saysExt =
    true then iso15765AddrType else 0 := by
  unfold OpChannel.ext OpReply.saysExt
  simp only [iso_iff]

theorem ext_address (r : OpReply) (h : c.iso = true) :
    c.ext r &&& iso15765AddrType ≠ 0 ↔ r.saysExt = true := by
  rw [ext_eq, h]
  cases r.saysExt <;> decide

/-- The other bits a frame sets say nothing about the address. -/
theorem bits_address (r : OpReply) :
    ((if hasBit r.status opStsLoopback then txMsgType else 0) ||| (c.wide r ||| c.ext r)) &&&
      iso15765AddrType ≠ 0 ↔ c.ext r &&& iso15765AddrType ≠ 0 := by
  rw [addr_or, addr_or]
  have h1 : ¬(if hasBit r.status opStsLoopback then txMsgType else 0) &&& iso15765AddrType ≠ 0 := by
    split <;> decide
  have h2 : ¬c.wide r &&& iso15765AddrType ≠ 0 := by
    unfold OpChannel.wide
    split <;> decide
  constructor
  · rintro (h | h | h)
    · exact absurd h h1
    · exact absurd h h2
    · exact h
  · exact fun h => Or.inr (Or.inr h)

/-- What `absorb_frame` skips of a frame is the header the message's frames repeat. -/
theorem brought_eq {g : Gathering} (h : Underway c g) (r : OpReply) :
    r.bytes.drop (continuationSkip c (openPartial c) (c.ext r) r.bytes.length) =
      brought c.iso g.announced g.frames r := by
  unfold continuationSkip brought
  by_cases ha : c.partialActive = true
  · have hne : g.frames ≠ [] := h.active.mp ha
    by_cases hi : c.iso = true
    · have hp : openPartial c = c.partialMsg := by
        unfold openPartial
        exact if_pos ha
      -- the address is extended when the message so far or this frame says so
      have hext : ((openPartial c).rxStatus ||| c.ext r) &&& iso15765AddrType ≠ 0 ↔
          (g.announced || (r :: g.frames).any OpReply.saysExt) = true := by
        rw [addr_or, hp, h.address hi ha, ext_address r hi, List.any_cons]
        cases g.announced <;> cases r.saysExt <;> cases g.frames.any OpReply.saysExt <;> decide
      have hlen : (if ((openPartial c).rxStatus ||| c.ext r) &&& iso15765AddrType ≠ 0
        then 5 else 4) =
          headerLen (g.announced || (r :: g.frames).any OpReply.saysExt) := by
        unfold headerLen
        simp only [hext]
      rw [if_pos ⟨ha, iso_iff.mp hi⟩]
      simp only [hlen]
      by_cases hl : r.bytes.length < headerLen (g.announced || (r :: g.frames).any OpReply.saysExt)
      · rw [if_pos hl, if_neg fun hx => absurd hx.2.2 (Nat.not_le.mpr hl), List.drop_zero]
      · rw [if_neg hl, if_pos ⟨hne, hi, Nat.le_of_not_lt hl⟩]
    · rw [if_neg fun hx => hi (iso_iff.mpr hx.2)]
      simp only
      rw [if_neg fun hx => hi hx.2.1, List.drop_zero]
  · have hnil : g.frames = [] := Classical.byContradiction fun e => ha (h.active.mpr e)
    rw [if_neg fun hx => ha hx.1]
    simp only
    rw [if_neg fun hx => hx.1 hnil, List.drop_zero]

/-- **A data frame adds to the reassembly what it brings**, as much of it as there is room for. -/
theorem nextPartial_carried {g : Gathering} (h : Underway c g) (r : OpReply) :
    (c.nextPartial r).dataSize = UInt64.ofNat (((g.add r).bytes c).take j2534MsgDataMax).length ∧
      (c.nextPartial r).data = dataOf (((g.add r).bytes c).take j2534MsgDataMax) ∧
      (c.iso = true → ((c.nextPartial r).rxStatus &&& iso15765AddrType ≠ 0 ↔
        (g.announced || (r :: g.frames).any OpReply.saysExt) = true)) := by
  have hbytes : (g.add r).bytes c = g.bytes c ++ brought c.iso g.announced g.frames r := rfl
  -- what the open reassembly holds, an open one or a fresh one
  have hopen : (openPartial c).dataSize = UInt64.ofNat ((g.bytes c).take j2534MsgDataMax).length ∧
      (openPartial c).data = dataOf ((g.bytes c).take j2534MsgDataMax) ∧
      (c.iso = true → ((openPartial c).rxStatus &&& iso15765AddrType ≠ 0 ↔
        (g.announced || g.frames.any OpReply.saysExt) = true)) := by
    unfold openPartial
    by_cases ha : c.partialActive = true
    · rw [if_pos ha]
      exact ⟨h.dataSize ha, h.data ha, fun hi => h.address hi ha⟩
    · have hnil : g.frames = [] := Classical.byContradiction fun e => ha (h.active.mpr e)
      rw [if_neg ha]
      unfold Gathering.bytes
      rw [hnil]
      refine ⟨rfl, rfl, ?_⟩
      intro hi
      rw [h.announced hi (Bool.eq_false_iff.mpr ha)]
      show (if g.announced = true then iso15765AddrType else 0) &&& _ ≠ 0 ↔
        (g.announced || false) = true
      cases g.announced <;> decide
  have hext := extendPartial_take (g.bytes c) hopen.1 hopen.2.1
    (brought c.iso g.announced g.frames r) r.timestampUs
    ((if hasBit r.status opStsLoopback then txMsgType else 0) ||| (c.wide r ||| c.ext r))
  unfold OpChannel.nextPartial
  rw [brought_eq h r, hext, hbytes]
  refine ⟨rfl, rfl, ?_⟩
  intro hi
  simp only
  rw [addr_or, bits_address, hopen.2.2 hi, ext_address r hi, List.any_cons]
  cases g.announced <;> cases r.saysExt <;> cases g.frames.any OpReply.saysExt <;> decide

/-- A START frame of a channel is no data frame. -/
theorem isData_start {r : OpReply} (h : c.isStart r = true) : c.isData r = false := by
  unfold OpChannel.isData
  rw [h]
  exact Bool.and_false _

/-- **One frame keeps the reassembly and the message under way together**, if no START finds a
    reassembly open. -/
theorem underway_frame {g : Gathering} (h : Underway c g) {r : OpReply}
    (hstart : c.isStart r = true → c.partialActive = false) :
    Underway (c.afterFrame r) (g.next c r) := by
  unfold OpChannel.afterFrame Gathering.next
  by_cases hs : c.isStart r = true
  · have hoff := hstart hs
    have hnil : g.frames = [] :=
      Classical.byContradiction fun e => absurd (h.active.mpr e)
        (by rw [hoff]; exact Bool.false_ne_true)
    rw [if_pos hs, if_pos hs]
    refine ⟨⟨fun e => absurd e Bool.false_ne_true, fun e => absurd hnil e⟩, ?_,
      fun e => absurd e Bool.false_ne_true, fun e => absurd e Bool.false_ne_true,
      fun e => absurd e Bool.false_ne_true, fun _ e => absurd e Bool.false_ne_true⟩
    intro hi _
    have hi' : c.iso = true := hi
    have hext : decide (c.ext r ≠ 0) = r.saysExt := by
      rw [ext_eq, hi']
      cases r.saysExt <;> decide
    exact hext
  rw [if_neg hs, if_neg hs]
  by_cases hd : c.isData r = true
  · rw [if_pos hd, if_pos hd]
    obtain ⟨h1, h2, h3⟩ := nextPartial_carried h r
    have hann : (if c.partialActive = true then c.extAnnounced else false) = false := by
      by_cases ha : c.partialActive = true
      · rw [if_pos ha, h.spent ha]
      · rw [if_neg ha]
    cases hasBit r.status opStsEnd with
    | true => exact underway_idle rfl fun _ => hann
    | false =>
        exact ⟨⟨fun _ => List.cons_ne_nil _ _, fun _ => rfl⟩, fun _ e => Bool.noConfusion e,
          fun _ => hann, fun _ => h1, fun _ => h2, fun hi _ => h3 hi⟩
  · rw [if_neg hd, if_neg hd]
    exact h

/-- The message a data frame completes is what its frames brought, the first 4128 bytes of it. -/
theorem frameOut_carried {g : Gathering} (h : Underway c g) {r : OpReply} (hd : c.isData r = true)
    {m : PassThruMsg} (hm : c.frameOut r = some m) :
    m.bytes m.size = ((g.add r).bytes c).take j2534MsgDataMax := by
  obtain ⟨h1, h2, -⟩ := nextPartial_carried h r
  have hroom : (((g.add r).bytes c).take j2534MsgDataMax).length ≤ j2534MsgDataMax :=
    List.length_take_le _ _
  have hout : m = c.nextPartial r := by
    rw [c.frameOut_data hd] at hm
    split at hm
    · exact (Option.some.inj hm).symm
    · cases hm
  have hsize : m.size = (((g.add r).bytes c).take j2534MsgDataMax).length := by
    unfold PassThruMsg.size
    rw [hout, h1, toNat_dataSize hroom]
    exact Nat.min_eq_left hroom
  rw [hsize]
  exact bytes_dataOf (by rw [hout, h2])

end Frame

/-! ## 3. A run of frames -/

/-- A message put in a channel's queue, and the bytes its frames carried; `none` for an
    indication. -/
structure Put where
  carried : Option Bytes
  msg : PassThruMsg

/-- The message is all that its frames carried. -/
def Put.Intact (p : Put) : Prop := ∀ bs, p.carried = some bs → p.msg.bytes p.msg.size = bs

/-- A device that absorbs frames, and what became of those that concern one channel: the message
    under way, the messages put in the queue, and how many found no room. -/
structure FrameRun where
  dev : OpDevice
  gathering : Gathering := {}
  puts : List Put := []
  refused : Nat := 0

/-- What a frame offers the queue of channel `i`: the message of one of its own frames, or the
    echo on channel 5. -/
def FrameRun.offer (i : Fin 10) (s : FrameRun) (r : OpReply) : Option Put :=
  let c := s.dev.ch i
  if r.channel = i.val then
    (c.frameOut r).map fun m =>
      { carried := if c.isData r then some ((s.gathering.add r).bytes c) else none, msg := m }
  else if i = 6 ∧ isEcho s.dev r = true then
    some
      { carried := some r.bytes
        msg := frameMsg can r (txMsgType ||| (if hasBit r.status opSts29Bit then can29BitId else 0))
          false true }
  else none

/-- The channel with a frame added to its reassembly, before anything is queued. -/
def FrameRun.folded (i : Fin 10) (s : FrameRun) (r : OpReply) : OpChannel :=
  if r.channel = i.val then (s.dev.ch i).afterFrame r else s.dev.ch i

/-- The message under way after a frame. -/
def FrameRun.gathers (i : Fin 10) (s : FrameRun) (r : OpReply) : Gathering :=
  if r.channel = i.val then s.gathering.next (s.dev.ch i) r else s.gathering

/-- Enter an offered message into the books. -/
def FrameRun.book (i : Fin 10) (s : FrameRun) : Option Put → FrameRun
  | none => s
  | some p =>
    if queueRefuses (s.dev.ch i) p.msg then { s with refused := s.refused + 1 }
    else { s with puts := s.puts ++ [p] }

/-- `absorb_frame`, with the books of channel `i`. -/
def FrameRun.step (i : Fin 10) (s : FrameRun) (r : OpReply) : FrameRun :=
  { s.book i (s.offer i r) with
    dev := absorbFrame s.dev r, gathering := s.gathers i r }

def FrameRun.run (i : Fin 10) (s : FrameRun) (rs : List OpReply) : FrameRun :=
  rs.foldl (FrameRun.step i) s

/-- The run is one of `absorb_frame`. -/
theorem FrameRun.run_dev (i : Fin 10) (s : FrameRun) (rs : List OpReply) :
    (s.run i rs).dev = rs.foldl absorbFrame s.dev := by
  induction rs generalizing s with
  | nil => rfl
  | cons r rs ih => exact ih (s.step i r)

/-! ## 4. One step of a run -/

/-- No END was lost before this frame: a START finds no reassembly open. -/
def EndKept (i : Fin 10) (s : FrameRun) (r : OpReply) : Prop :=
  r.channel = i.val → (s.dev.ch i).isStart r = true → (s.dev.ch i).partialActive = false

/-- No END is lost in a run. -/
def EndsKept (i : Fin 10) : FrameRun → List OpReply → Prop
  | _, [] => True
  | s, r :: rs => EndKept i s r ∧ EndsKept i (s.step i r) rs

/-- The channel is open and reassembles, and what it holds is the message under way. -/
structure Attached (i : Fin 10) (s : FrameRun) : Prop where
  isOpen : (s.dev.ch i).isOpen = true
  base : (s.dev.ch i).base ≠ can
  underway : Underway (s.dev.ch i) s.gathering

/-- What a frame does to the channel is what it does to the reassembly, and a push. -/
theorem absorbFrame_offer (i : Fin 10) (s : FrameRun) (r : OpReply)
    (hopen : (s.dev.ch i).isOpen = true) :
    (absorbFrame s.dev r).ch i = queueOption (s.folded i r) ((s.offer i r).map (·.msg)) := by
  unfold FrameRun.offer FrameRun.folded
  simp only
  by_cases hi : r.channel = i.val
  · have hc : concerns s.dev i r = true := by simp [concerns, hi]
    rw [absorbFrame_seen hc, if_pos hi, if_pos hi]
    unfold OpChannel.receive
    rw [if_pos hopen, if_pos hi, absorbOpen_eq, Option.map_map]
    congr 1
    cases (s.dev.ch i).frameOut r <;> rfl
  rw [if_neg hi, if_neg hi]
  by_cases he : i = 6 ∧ isEcho s.dev r = true
  · have hc : concerns s.dev i r = true := by simp [concerns, he.1, he.2]
    rw [absorbFrame_seen hc, if_pos he]
    unfold OpChannel.receive
    rw [if_pos hopen, if_neg hi]
    rfl
  · have hc : concerns s.dev i r = false := by
      unfold concerns
      simpa [hi] using he
    rw [absorbFrame_unseen hc, if_neg he]
    rfl

section Attach

variable {i : Fin 10} {s : FrameRun} {r : OpReply}

/-- The channel before the push has the ring it had. -/
theorem folded_ring (i : Fin 10) (s : FrameRun) (r : OpReply) :
    (s.folded i r).rq = (s.dev.ch i).rq ∧ (s.folded i r).rqHead = (s.dev.ch i).rqHead ∧
      (s.folded i r).rqTail = (s.dev.ch i).rqTail ∧ (s.folded i r).rqUsed = (s.dev.ch i).rqUsed ∧
      (s.folded i r).qcount = (s.dev.ch i).qcount ∧
      (s.folded i r).dropped = (s.dev.ch i).dropped ∧
      (s.folded i r).protocol = (s.dev.ch i).protocol := by
  unfold FrameRun.folded
  by_cases hi : r.channel = i.val
  · rw [if_pos hi]
    obtain ⟨k1, k2, k3, k4, k5, k6⟩ := (s.dev.ch i).afterFrame_ring r
    exact ⟨k1, k2, k3, k4, k5, k6, ((s.dev.ch i).afterFrame_config r).2.1⟩
  · rw [if_neg hi]
    exact ⟨rfl, rfl, rfl, rfl, rfl, rfl, rfl⟩

/-- Folding a frame in does not change what the ring has room for. -/
theorem folded_refuses (i : Fin 10) (s : FrameRun) (r : OpReply) (m : PassThruMsg) :
    queueRefuses (s.folded i r) m = queueRefuses (s.dev.ch i) m := by
  obtain ⟨k1, -, -, k4, -⟩ := folded_ring i s r
  unfold queueRefuses
  rw [k1, k4]

/-- The channel after a frame: folded in, and what it offers pushed. -/
theorem step_channel (h : Attached i s) (r : OpReply) :
    (s.step i r).dev.ch i = queueOption (s.folded i r) ((s.offer i r).map (·.msg)) :=
  absorbFrame_offer i s r h.isOpen

/-- **One frame keeps the channel attached**, unless an END was lost before it. -/
theorem attached_step (h : Attached i s) (hk : EndKept i s r) : Attached i (s.step i r) := by
  have hch := step_channel h r
  obtain ⟨e1, e2, e3, e4⟩ := queueOption_reassembly (s.folded i r) ((s.offer i r).map (·.msg))
  obtain ⟨-, -, -, -, -, -, hprot⟩ := folded_ring i s r
  have hu : Underway (s.folded i r) (s.gathers i r) := by
    unfold FrameRun.folded FrameRun.gathers
    by_cases hi : r.channel = i.val
    · rw [if_pos hi, if_pos hi]
      exact underway_frame h.underway (hk hi)
    · rw [if_neg hi, if_neg hi]
      exact h.underway
  refine ⟨(absorbFrame_isOpen s.dev r i).trans h.isOpen, ?_, ?_⟩
  · unfold OpChannel.base
    rw [hch, e1, hprot]
    exact h.base
  · rw [hch]
    exact hu.congr e1 e3 e4 e2

end Attach

/-! ## 5. The frames of one message -/

/-- A frame that announces a message. -/
structure OpReply.Announces (r : OpReply) : Prop where
  noTxInd : hasBit r.status opStsTxInd = false
  start : hasBit r.status opStsStart = true
  noEnd : hasBit r.status opStsEnd = false

/-- A data frame that others follow. -/
structure OpReply.Carries (r : OpReply) : Prop where
  noTxInd : hasBit r.status opStsTxInd = false
  noStart : hasBit r.status opStsStart = false
  noEnd : hasBit r.status opStsEnd = false

/-- The last frame of a message. -/
structure OpReply.Closes (r : OpReply) : Prop where
  noTxInd : hasBit r.status opStsTxInd = false
  ends : hasBit r.status opStsEnd = true

section Message

variable {c : OpChannel} (hbase : c.base ≠ can) {r : OpReply}
include hbase

theorem announces_frame (hr : r.Announces) : c.isStart r = true ∧
    ∃ m, c.frameOut r = some m ∧ m.size ≤ r.bytes.length := by
  have hti : c.isTxInd r = false := OpChannel.isTxInd_false hr.noTxInd
  have hst : c.isStart r = true := by
    unfold OpChannel.isStart
    rw [hti, bne_iff_ne.mpr hbase, hr.start, hr.noEnd]
    rfl
  have hsize : ∀ (status : UInt64) (keep : Bool),
      (frameMsg c.protocol.toUInt64 r status true keep).size ≤ r.bytes.length := by
    intro status keep
    have hl : ((if keep then r.bytes else []).take j2534MsgDataMax).length ≤ r.bytes.length := by
      rw [List.length_take]
      cases keep with
      | true => exact Nat.min_le_right _ _
      | false => exact Nat.le_trans (Nat.min_le_right _ _) (Nat.zero_le _)
    have hsz : (UInt64.ofNat ((if keep then r.bytes else []).take j2534MsgDataMax).length).toNat ≤
        ((if keep then r.bytes else []).take j2534MsgDataMax).length := by
      rw [UInt64.toNat_ofNat']
      exact Nat.mod_le _ _
    exact Nat.le_trans (Nat.min_le_left _ _) (Nat.le_trans hsz hl)
  refine ⟨hst, ?_⟩
  unfold OpChannel.frameOut
  simp only [hti, hbase, hst, Bool.false_eq_true, if_false, if_true]
  split
  · exact ⟨_, rfl, hsize _ _⟩
  · exact ⟨_, rfl, hsize _ _⟩

theorem carries_frame (hr : r.Carries) :
    c.isStart r = false ∧ c.isData r = true ∧ c.frameOut r = none := by
  have hti : c.isTxInd r = false := OpChannel.isTxInd_false hr.noTxInd
  have hst : c.isStart r = false := OpChannel.isStart_false hr.noStart
  have hda : c.isData r = true := (c.isData_iff r).mpr ⟨hti, hbase, hst⟩
  refine ⟨hst, hda, ?_⟩
  rw [OpChannel.frameOut_data hda, hr.noEnd]
  exact if_neg Bool.false_ne_true

theorem closes_frame (hr : r.Closes) :
    c.isStart r = false ∧ c.isData r = true ∧ c.frameOut r = some (c.nextPartial r) := by
  have hti : c.isTxInd r = false := OpChannel.isTxInd_false hr.noTxInd
  have hst : c.isStart r = false := by
    unfold OpChannel.isStart
    rw [hr.ends]
    exact Bool.and_false _
  have hda : c.isData r = true := (c.isData_iff r).mpr ⟨hti, hbase, hst⟩
  refine ⟨hst, hda, ?_⟩
  rw [OpChannel.frameOut_data hda, hr.ends]
  exact if_pos rfl

end Message

section MessageRun

variable {i : Fin 10} {s : FrameRun} {r : OpReply}

/-- A channel of the same connection whose ring is used as much. -/
structure SameRing (c c' : OpChannel) : Prop where
  protocol : c'.protocol = c.protocol
  buffer : c'.rq.isSome = c.rq.isSome
  used : c'.rqUsed = c.rqUsed
  dropped : c'.dropped = c.dropped

/-- A data frame that others follow goes to the message under way, and nowhere else. -/
theorem carries_step (h : Attached i s) (hown : r.channel = i.val) (hr : r.Carries) :
    Attached i (s.step i r) ∧ (s.step i r).puts = s.puts ∧
      (s.step i r).gathering = s.gathering.add r ∧
      SameRing (s.dev.ch i) ((s.step i r).dev.ch i) := by
  obtain ⟨hst, hda, hout⟩ := carries_frame h.base hr
  have hoff : s.offer i r = none := by
    unfold FrameRun.offer
    simp only
    rw [if_pos hown, hout]
    rfl
  have hch := step_channel h r
  rw [hoff] at hch
  have hch' : (s.step i r).dev.ch i = s.folded i r := hch
  obtain ⟨k1, -, -, k4, -, k6, k7⟩ := folded_ring i s r
  refine ⟨attached_step h ?_, ?_, ?_, ?_⟩
  · intro _ hx
    rw [hst] at hx
    cases hx
  · show (s.book i (s.offer i r)).puts = _
    rw [hoff]
    rfl
  · show s.gathers i r = _
    unfold FrameRun.gathers Gathering.next
    rw [if_pos hown, hst, hda, hr.noEnd]
    rfl
  · rw [hch']
    exact ⟨k7, by rw [k1], k4, k6⟩

theorem carries_run {rs : List OpReply} (h : Attached i s)
    (hrs : ∀ r ∈ rs, r.channel = i.val ∧ r.Carries) :
    Attached i (s.run i rs) ∧ (s.run i rs).puts = s.puts ∧
      (s.run i rs).gathering = { s.gathering with frames := rs.reverse ++ s.gathering.frames } ∧
      SameRing (s.dev.ch i) ((s.run i rs).dev.ch i) := by
  induction rs generalizing s with
  | nil => exact ⟨h, rfl, rfl, rfl, rfl, rfl, rfl⟩
  | cons r rs ih =>
      obtain ⟨hown, hr⟩ := hrs r List.mem_cons_self
      obtain ⟨h1, h2, h3, h4⟩ := carries_step h hown hr
      obtain ⟨g1, g2, g3, g4⟩ := ih h1 fun x hx => hrs x (List.mem_cons_of_mem _ hx)
      refine ⟨g1, g2.trans h2, ?_, ⟨g4.protocol.trans h4.protocol, g4.buffer.trans h4.buffer,
        g4.used.trans h4.used, g4.dropped.trans h4.dropped⟩⟩
      show ((s.step i r).run i rs).gathering = _
      rw [g3, h3, List.reverse_cons, List.append_assoc]
      rfl

/-- The last frame offers the queue the message under way. -/
theorem closes_step (h : Attached i s) (hown : r.channel = i.val) (hr : r.Closes) :
    let m := (s.dev.ch i).nextPartial r
    let bs := (s.gathering.add r).bytes (s.dev.ch i)
    m.bytes m.size = bs.take j2534MsgDataMax ∧
      ((queueRefuses (s.dev.ch i) m = true ∧ (s.step i r).puts = s.puts) ∨
        (queueRefuses (s.dev.ch i) m = false ∧
          (s.step i r).puts = s.puts ++ [{ carried := some bs, msg := m }] ∧
          ((s.step i r).dev.ch i).dropped = (s.dev.ch i).dropped)) := by
  intro m bs
  obtain ⟨-, hda, hout⟩ := closes_frame h.base hr
  have hoff : s.offer i r = some { carried := some bs, msg := m } := by
    unfold FrameRun.offer
    simp only
    rw [if_pos hown, hout, hda]
    rfl
  refine ⟨frameOut_carried h.underway hda hout, ?_⟩
  have hputs : (s.step i r).puts = (s.book i (s.offer i r)).puts := rfl
  rw [hoff] at hputs
  unfold FrameRun.book at hputs
  cases hr : queueRefuses (s.dev.ch i) m with
  | true =>
      simp only [hr, if_true] at hputs
      exact Or.inl ⟨rfl, hputs⟩
  | false =>
      simp only [hr, Bool.false_eq_true, if_false] at hputs
      have hch := step_channel h r
      rw [hoff] at hch
      have hch' : (s.step i r).dev.ch i = queuePush (s.folded i r) m := hch
      refine Or.inr ⟨rfl, hputs, ?_⟩
      rw [hch', queuePush_dropped ((folded_refuses i s r m).trans hr)]
      exact (folded_ring i s r).2.2.2.2.2.1

/-- A push takes at most the message's room. -/
theorem queuePush_used (c : OpChannel) (m : PassThruMsg) :
    (queuePush c m).rqUsed ≤ c.rqUsed + cost m ∧
      (queuePush c m).rq.isSome = c.rq.isSome ∧ (queuePush c m).protocol = c.protocol := by
  refine ⟨?_, queuePush_buffer c m, (queuePush_config c m).2.1⟩
  cases hr : queueRefuses c m with
  | true =>
      rw [queuePush_refused hr]
      exact Nat.le_add_right _ _
  | false =>
      unfold queuePush
      rw [hr]
      exact Nat.le_refl _

/-- The frame that announces a message is an indication at most. -/
theorem announces_step (h : Attached i s) (hidle : s.gathering.frames = [])
    (hown : r.channel = i.val) (hr : r.Announces) :
    Attached i (s.step i r) ∧ (s.step i r).gathering = { announced := r.saysExt } ∧
      (∃ inds, (s.step i r).puts = s.puts ++ inds ∧ ∀ p ∈ inds, p.carried = none) ∧
      ((s.step i r).dev.ch i).protocol = (s.dev.ch i).protocol ∧
      ((s.step i r).dev.ch i).rq.isSome = (s.dev.ch i).rq.isSome ∧
      ((s.step i r).dev.ch i).rqUsed ≤ (s.dev.ch i).rqUsed + (qhdrSize + r.bytes.length) := by
  obtain ⟨hst, m, hout, hsize⟩ := announces_frame h.base hr
  have hda := isData_start hst
  have hoff : s.offer i r = some { carried := none, msg := m } := by
    unfold FrameRun.offer
    simp only
    rw [if_pos hown, hout, hda]
    rfl
  have hoffs : (s.dev.ch i).partialActive = false :=
    Bool.eq_false_iff.mpr fun e => h.underway.active.mp e hidle
  have hch := step_channel h r
  rw [hoff] at hch
  have hch' : (s.step i r).dev.ch i = queuePush (s.folded i r) m := hch
  obtain ⟨k1, -, -, k4, -, -, k7⟩ := folded_ring i s r
  obtain ⟨u1, u2, u3⟩ := queuePush_used (s.folded i r) m
  refine ⟨attached_step h fun _ _ => hoffs, ?_, ?_, ?_, ?_, ?_⟩
  · show s.gathers i r = _
    unfold FrameRun.gathers Gathering.next
    rw [if_pos hown, if_pos hst, hidle]
  · have hputs : (s.step i r).puts = (s.book i (s.offer i r)).puts := rfl
    rw [hoff] at hputs
    unfold FrameRun.book at hputs
    cases hq : queueRefuses (s.dev.ch i) m with
    | true =>
        simp only [hq, if_true] at hputs
        exact ⟨[], by rw [hputs, List.append_nil], fun p hp => absurd hp List.not_mem_nil⟩
    | false =>
        simp only [hq, Bool.false_eq_true, if_false] at hputs
        exact ⟨_, hputs, fun p hp => by rw [List.mem_singleton.mp hp]⟩
  · rw [hch', u3, k7]
  · rw [hch', u2, k1]
  · rw [hch']
    refine Nat.le_trans u1 ?_
    rw [k4]
    unfold cost
    omega

/-- What the frames of a message carry, the announcement first and the END last. -/
def messageBytes (iso : Bool) (starts more : List OpReply) (last : OpReply) : Bytes :=
  carried iso (starts.any OpReply.saysExt) (last :: more.reverse)

/-- What a message's frames take in the ring. -/
def messageRoom (iso : Bool) (starts more : List OpReply) (last : OpReply) : Nat :=
  (starts.map fun r => qhdrSize + r.bytes.length).sum +
    (qhdrSize + (messageBytes iso starts more last).length)

/-- The announcement of a message, if it has one. -/
theorem starts_run (h : Attached i s) (hidle : s.gathering = {}) {starts : List OpReply}
    (hlen : starts.length ≤ 1) (hst : ∀ r ∈ starts, r.channel = i.val ∧ r.Announces) :
    let t := s.run i starts
    Attached i t ∧ t.gathering = { announced := starts.any OpReply.saysExt } ∧
      (∃ inds, t.puts = s.puts ++ inds ∧ ∀ p ∈ inds, p.carried = none) ∧
      (t.dev.ch i).protocol = (s.dev.ch i).protocol ∧
      (t.dev.ch i).rq.isSome = (s.dev.ch i).rq.isSome ∧
      (t.dev.ch i).rqUsed ≤ (s.dev.ch i).rqUsed +
        (starts.map fun r => qhdrSize + r.bytes.length).sum := by
  intro t
  rcases starts with _ | ⟨a, _ | ⟨b, rest⟩⟩
  · exact ⟨h, hidle, ⟨[], (List.append_nil _).symm, fun p hp => absurd hp List.not_mem_nil⟩,
      rfl, rfl, Nat.le_refl _⟩
  · obtain ⟨hown, hr⟩ := hst a List.mem_cons_self
    obtain ⟨h1, h2, h3, h4, h5, h6⟩ := announces_step h (by rw [hidle]) hown hr
    refine ⟨h1, ?_, h3, h4, h5, ?_⟩
    · rw [List.any_cons, List.any_nil, Bool.or_false]
      exact h2
    · rw [List.map_cons, List.map_nil, List.sum_cons, List.sum_nil, Nat.add_zero]
      exact h6
  · simp only [List.length_cons] at hlen
    omega

/-- **One message whole.** On a channel with nothing under way, the frames of one message put at
    most indications in the queue and one message behind them: the first 4128 bytes of what they
    carry. It is there if the ring has room. -/
theorem message_run (h : Attached i s) (hidle : s.gathering = {}) {starts more : List OpReply}
    {last : OpReply} (hlen : starts.length ≤ 1)
    (hst : ∀ r ∈ starts, r.channel = i.val ∧ r.Announces)
    (hmore : ∀ r ∈ more, r.channel = i.val ∧ r.Carries)
    (hown : last.channel = i.val) (hlast : last.Closes) :
    let bs := messageBytes (s.dev.ch i).iso starts more last
    ∃ inds ms, (s.run i (starts ++ (more ++ [last]))).puts = s.puts ++ (inds ++ ms) ∧
      (∀ p ∈ inds, p.carried = none) ∧
      (ms = [] ∨ ∃ m : PassThruMsg, ms = [{ carried := some bs, msg := m }] ∧
        m.bytes m.size = bs.take j2534MsgDataMax) ∧
      ((s.dev.ch i).rq.isSome = true →
        (s.dev.ch i).rqUsed + messageRoom (s.dev.ch i).iso starts more last ≤ opRxqBytes →
        ms ≠ []) := by
  intro bs
  obtain ⟨a1, a2, ⟨inds, a3, a3'⟩, a4, a5, a6⟩ := starts_run h hidle hlen hst
  obtain ⟨b1, b2, b3, b4⟩ := carries_run a1 hmore
  have hrun : s.run i (starts ++ (more ++ [last])) =
      (((s.run i starts).run i more).step i last) := by
    unfold FrameRun.run
    rw [List.foldl_append, List.foldl_append]
    rfl
  rw [hrun]
  generalize hu : (s.run i starts).run i more = u at b1 b2 b3 b4
  obtain ⟨c1, c2⟩ := closes_step b1 hown hlast
  have hiso : (u.dev.ch i).iso = (s.dev.ch i).iso := by
    unfold OpChannel.iso OpChannel.base
    rw [b4.protocol, a4]
  have hbs : (u.gathering.add last).bytes (u.dev.ch i) = bs := by
    show carried _ _ _ = carried _ _ _
    rw [hiso]
    unfold Gathering.add
    rw [b3, a2, List.append_nil]
  rw [hbs] at c1 c2
  have hputs : u.puts = s.puts ++ inds := b2.trans a3
  rcases c2 with ⟨href, hp⟩ | ⟨-, hp, -⟩
  · refine ⟨inds, [], by rw [hp, hputs, List.append_nil], a3', Or.inl rfl, ?_⟩
    intro hrq hroom
    -- a ring with that much room refuses nothing
    have hsz : ((u.dev.ch i).nextPartial last).size ≤ bs.length := by
      have hl := congrArg List.length c1
      rw [PassThruMsg.bytes_length, List.length_take] at hl
      rw [hl]
      exact Nat.min_le_right _ _
    have hbuf : (u.dev.ch i).rq.isSome = true := (b4.buffer.trans a5).trans hrq
    have hused : (u.dev.ch i).rqUsed ≤ _ := b4.used ▸ a6
    obtain ⟨mem, hm⟩ := Option.isSome_iff_exists.mp hbuf
    unfold queueRefuses at href
    rw [hm] at href
    have hfull : opRxqBytes < (u.dev.ch i).rqUsed + qhdrSize +
      ((u.dev.ch i).nextPartial last).size :=
      of_decide_eq_true href
    have hroom' : (s.dev.ch i).rqUsed + ((starts.map fun r => qhdrSize + r.bytes.length).sum +
        (qhdrSize + bs.length)) ≤ opRxqBytes := hroom
    omega
  · exact ⟨inds, _, by rw [hp, hputs, List.append_assoc], a3', Or.inr ⟨_, rfl, c1⟩,
      fun _ _ => List.cons_ne_nil _ _⟩

/-- The last frame leaves nothing under way. -/
theorem closes_idle (h : Attached i s) (hown : r.channel = i.val) (hr : r.Closes) :
    Attached i (s.step i r) ∧ (s.step i r).gathering = {} ∧
      ((s.step i r).dev.ch i).protocol = (s.dev.ch i).protocol ∧
      ((s.step i r).dev.ch i).rq.isSome = (s.dev.ch i).rq.isSome := by
  obtain ⟨hst, hda, hout⟩ := closes_frame h.base hr
  obtain ⟨k1, -, -, -, -, -, k7⟩ := folded_ring i s r
  have hch := step_channel h r
  refine ⟨attached_step h ?_, ?_, ?_, ?_⟩
  · intro _ hx
    rw [hst] at hx
    cases hx
  · show s.gathers i r = _
    unfold FrameRun.gathers Gathering.next
    rw [if_pos hown, hst, hda, hr.ends]
    rfl
  · cases hoff : (s.offer i r).map (·.msg) with
    | none =>
        rw [hoff] at hch
        rw [hch]
        exact k7
    | some m =>
        rw [hoff] at hch
        rw [hch]
        exact (queuePush_used (s.folded i r) m).2.2.trans k7
  · cases hoff : (s.offer i r).map (·.msg) with
    | none =>
        rw [hoff] at hch
        rw [hch]
        exact congrArg Option.isSome k1
    | some m =>
        rw [hoff] at hch
        rw [hch]
        exact (queuePush_used (s.folded i r) m).2.1.trans (congrArg Option.isSome k1)

/-- After one message whole the channel is between two messages again. -/
theorem message_idle (h : Attached i s) (hidle : s.gathering = {}) {starts more : List OpReply}
    {last : OpReply} (hlen : starts.length ≤ 1)
    (hst : ∀ r ∈ starts, r.channel = i.val ∧ r.Announces)
    (hmore : ∀ r ∈ more, r.channel = i.val ∧ r.Carries)
    (hown : last.channel = i.val) (hlast : last.Closes) :
    let t := s.run i (starts ++ (more ++ [last]))
    Attached i t ∧ t.gathering = {} ∧ (t.dev.ch i).protocol = (s.dev.ch i).protocol ∧
      (t.dev.ch i).rq.isSome = (s.dev.ch i).rq.isSome := by
  intro t
  obtain ⟨a1, -, -, a4, a5, -⟩ := starts_run h hidle hlen hst
  obtain ⟨b1, -, -, b4⟩ := carries_run a1 hmore
  obtain ⟨c1, c2, c3, c4⟩ := closes_idle b1 hown hlast
  have hrun : t = ((s.run i starts).run i more).step i last := by
    show s.run i (starts ++ (more ++ [last])) = _
    unfold FrameRun.run
    rw [List.foldl_append, List.foldl_append]
    rfl
  rw [hrun]
  exact ⟨c1, c2, (c3.trans b4.protocol).trans a4, (c4.trans b4.buffer).trans a5⟩

end MessageRun

end Openport
