/-
  File:      Openport/Device/Starts.lean
  Subject:   The frames a delivered message's bytes come from, and the START frames
             between them.

  Every byte is kept with the frame that brought it. A START without END discards
  what is under way, so no message has bytes from both sides of one. A frame with
  START and END is no such frame to `absorb_frame`: what is under way stays, and
  the frame is added to it (`wholeFrame_added`).
-/
import Openport.Device.Loss

namespace Openport

open Lib.Ring

/-! ## 1. Bytes with their frames -/

/-- A byte, and the place in the run of the frame that brought it. -/
structure SourcedByte where
  frame : Nat
  byte : UInt8
  deriving DecidableEq, Repr

/-- The bytes of one frame. -/
def sourced (place : Nat) (bs : Bytes) : List SourcedByte := bs.map (⟨place, ·⟩)

theorem sourced_byte (place : Nat) (bs : Bytes) : (sourced place bs).map (·.byte) = bs := by
  unfold sourced
  rw [List.map_map]
  exact List.map_id bs

theorem sourced_frame {place : Nat} {bs : Bytes} {x : SourcedByte} (h : x ∈ sourced place bs) :
    x.frame = place := by
  obtain ⟨b, -, rfl⟩ := List.mem_map.mp h
  rfl

/-- A message put in the queue, by the frame at `place`, and where its bytes are from. -/
structure SourcedMsg where
  msg : PassThruMsg
  place : Nat
  bytes : List SourcedByte

/-- Whether a frame carries START, and is no transmit indication. -/
def OpChannel.begins (c : OpChannel) (r : OpReply) : Bool :=
  !c.isTxInd r && hasBit r.status opStsStart

/-- Whether it carries END as well. -/
def OpChannel.isWhole (c : OpChannel) (r : OpReply) : Bool :=
  c.isData r && hasBit r.status opStsStart

/-- What can happen to a channel's reassembly while it is open. -/
inductive ReassemblyOp where
  | frame (r : OpReply)
  | pop
  | flush

/-- A device that absorbs frames, and of one channel: the bytes under way, the places of the
    frames with START and of those with START and END, and what was put in the queue or found no
    room there. -/
structure SourceRun where
  dev : OpDevice
  place : Nat := 0
  underway : List SourcedByte := []
  starts : List Nat := []
  wholes : List (Nat × Bytes) := []
  puts : List SourcedMsg := []
  refused : List Nat := []

section Step

variable (i : Fin 10) (s : SourceRun)

/-- How many bytes a data frame finds room for, and which. -/
def OpChannel.taken (c : OpChannel) (r : OpReply) : Bytes :=
  (r.bytes.drop (continuationSkip c (openPartial c) (c.ext r) r.bytes.length)).take
    (j2534MsgDataMax - (openPartial c).dataSize.toNat)

/-- The bytes under way with those of a data frame. -/
def SourceRun.extended (r : OpReply) : List SourcedByte :=
  (if (s.dev.ch i).partialActive then s.underway else []) ++
    sourced s.place ((s.dev.ch i).taken r)

/-- The message a frame offers the queue, if any. -/
def SourceRun.offer (r : OpReply) : Option PassThruMsg :=
  (({ dev := s.dev } : FrameRun).offer i r).map (·.msg)

/-- Where the bytes of an offered message are from. -/
def SourceRun.sources (r : OpReply) (m : PassThruMsg) : List SourcedByte :=
  if r.channel = i.val ∧ (s.dev.ch i).isData r then s.extended i r
  else sourced s.place (r.bytes.take m.size)

/-- `absorb_frame`, with the places. -/
def SourceRun.absorb (r : OpReply) : SourceRun :=
  let c := s.dev.ch i
  let s' : SourceRun :=
    { s with
      dev := absorbFrame s.dev r
      place := s.place + 1
      underway := if r.channel = i.val ∧ c.isData r then s.extended i r else s.underway
      starts := if r.channel = i.val ∧ c.begins r then s.place :: s.starts else s.starts
      wholes := if r.channel = i.val ∧ c.isWhole r then (s.place, r.bytes) :: s.wholes
        else s.wholes }
  match s.offer i r with
  | none => s'
  | some m =>
    if queueRefuses c m then { s' with refused := s.place :: s.refused }
    else { s' with puts := s.puts ++ [⟨m, s.place, s.sources i r m⟩] }

def SourceRun.step : ReassemblyOp → SourceRun
  | .frame r => s.absorb i r
  | .pop => { s with dev := (opDevicePop s.dev i).2.2 }
  | .flush => { s with dev := opDeviceFlushChannel s.dev i }

def SourceRun.run (ops : List ReassemblyOp) : SourceRun := ops.foldl (SourceRun.step i) s

end Step

/-! ## 2. The law -/

/-- A START begins a new message. -/
structure SourceRun.StartsAnew (s : SourceRun) : Prop where
  /-- the bytes are the message's data -/
  exact : ∀ p ∈ s.puts, p.bytes.map (·.byte) = p.msg.bytes p.msg.size
  /-- no message has data from both sides of a START -/
  oneSide : ∀ p ∈ s.puts, ∀ k ∈ s.starts,
    (p.place < k ∧ ∀ x ∈ p.bytes, x.frame < k) ∨ (k ≤ p.place ∧ ∀ x ∈ p.bytes, k ≤ x.frame)
  /-- a frame with START and END is one message, of its own data, unless there is no room -/
  whole : ∀ w ∈ s.wholes, w.1 ∈ s.refused ∨
    (s.puts.filter (·.place = w.1)).map (·.bytes) = [sourced w.1 (w.2.take j2534MsgDataMax)]

/-- A frame with START and END finds no reassembly open, or an empty one and no CAN id of its own
    to lose. -/
def StartMeets (c : OpChannel) (r : OpReply) : Prop :=
  c.isWhole r = true → c.partialActive = true → c.partialMsg.dataSize = 0 ∧
    (c.base = iso15765 → r.bytes.length <
      (if (c.partialMsg.rxStatus ||| c.ext r) &&& iso15765AddrType ≠ 0 then 5 else 4))

/-- Every frame of the channel does. -/
def StartsMeet (i : Fin 10) : SourceRun → List ReassemblyOp → Prop
  | _, [] => True
  | s, .frame r :: ops => (r.channel = i.val → StartMeets (s.dev.ch i) r) ∧
      StartsMeet i (s.step i (.frame r)) ops
  | s, op :: ops => StartsMeet i (s.step i op) ops

/-! ## 3. What one frame does -/

/-- The first `xs.length` bytes of a message are `xs`, and it says so. -/
structure PassThruMsg.Has (m : PassThruMsg) (xs : List SourcedByte) : Prop where
  size : m.dataSize.toNat = xs.length
  room : xs.length ≤ j2534MsgDataMax
  bytes : m.bytes xs.length = xs.map (·.byte)

theorem PassThruMsg.Has.exact {m : PassThruMsg} {xs : List SourcedByte} (h : m.Has xs) :
    xs.map (·.byte) = m.bytes m.size := by
  have hsize : m.size = xs.length := by
    unfold PassThruMsg.size
    rw [h.size]
    exact Nat.min_eq_left h.room
  rw [hsize, h.bytes]

/-- A message that is one frame has the frame's bytes, as many as it says. -/
theorem frameMsg_exact (protocol : UInt64) (r : OpReply) (status : UInt64) (ind keep : Bool)
    (place : Nat) {m : PassThruMsg} (hm : m = frameMsg protocol r status ind keep) :
    (sourced place (r.bytes.take m.size)).map (·.byte) = m.bytes m.size := by
  rw [sourced_byte]
  have hlen : ((if keep then r.bytes else []).take j2534MsgDataMax).length ≤ j2534MsgDataMax :=
    List.length_take_le _ _
  have hsize : m.size = ((if keep then r.bytes else []).take j2534MsgDataMax).length := by
    rw [hm]
    unfold PassThruMsg.size frameMsg
    simp only
    rw [toNat_dataSize hlen]
    exact Nat.min_eq_left hlen
  have hbytes : m.bytes m.size = (if keep then r.bytes else []).take j2534MsgDataMax := by
    rw [hsize]
    exact bytes_dataOf (by rw [hm]; rfl)
  rw [hbytes, hsize]
  cases keep with
  | true =>
      show r.bytes.take (r.bytes.take j2534MsgDataMax).length = r.bytes.take j2534MsgDataMax
      rw [List.length_take, ← List.take_take, List.take_length]
  | false => rfl

/-- A message from a frame that carries no data of a longer one is that frame. -/
theorem frameOut_frame {c : OpChannel} {r : OpReply} (hd : c.isData r = false) {m : PassThruMsg}
    (hm : c.frameOut r = some m) : ∃ status ind keep,
    m = frameMsg c.protocol.toUInt64 r status ind keep := by
  unfold OpChannel.frameOut at hm
  simp only at hm
  split at hm
  · exact ⟨_, _, _, (Option.some.inj hm).symm⟩
  rename_i h1
  split at hm
  · exact ⟨_, _, _, (Option.some.inj hm).symm⟩
  rename_i h2
  split at hm
  · split at hm
    · exact ⟨_, _, _, (Option.some.inj hm).symm⟩
    · exact ⟨_, _, _, (Option.some.inj hm).symm⟩
  rename_i h3
  -- neither an indication nor a START nor raw CAN: it carries data
  have hdata : c.isData r = true :=
    (c.isData_iff r).mpr ⟨Bool.eq_false_iff.mpr h1, h2, Bool.eq_false_iff.mpr h3⟩
  rw [hd] at hdata
  cases hdata

theorem begins_isWhole {c : OpChannel} {r : OpReply} (hb : c.begins r = true)
    (hd : c.isData r = true) : c.isWhole r = true := by
  unfold OpChannel.isWhole
  rw [hd, ((Bool.and_eq_true _ _).mp hb).2]
  rfl

/-- A data frame with START has END as well. -/
theorem isWhole_ends {c : OpChannel} {r : OpReply} (h : c.isWhole r = true) :
    c.isData r = true ∧ hasBit r.status opStsStart = true ∧ hasBit r.status opStsEnd = true := by
  obtain ⟨hd, hs⟩ := (Bool.and_eq_true _ _).mp h
  obtain ⟨hti, hbase, hst⟩ := (c.isData_iff r).mp hd
  refine ⟨hd, hs, ?_⟩
  unfold OpChannel.isStart at hst
  rw [hti, bne_iff_ne.mpr hbase, hs] at hst
  simpa using hst

section Frame

variable {c : OpChannel} {xs : List SourcedByte}

/-- What is under way in a channel is what its reassembly has. -/
theorem openPartial_has (h : c.partialActive = true → c.partialMsg.Has xs) :
    (openPartial c).Has (if c.partialActive then xs else []) := by
  unfold openPartial
  cases hc : c.partialActive with
  | true => exact h hc
  | false => exact ⟨rfl, Nat.zero_le _, rfl⟩

/-- **A data frame's bytes go behind those under way**, as many as there is room for. -/
theorem nextPartial_has (h : c.partialActive = true → c.partialMsg.Has xs) (place : Nat)
    (r : OpReply) : (c.nextPartial r).Has
      ((if c.partialActive then xs else []) ++ sourced place (c.taken r)) := by
  have hopen := openPartial_has h
  generalize (if c.partialActive then xs else []) = ys at hopen
  have htaken : (c.taken r).length ≤ j2534MsgDataMax - ys.length := by
    unfold OpChannel.taken
    rw [hopen.size]
    exact List.length_take_le _ _
  have hroom := hopen.room
  have hmax : j2534MsgDataMax = 4128 := rfl
  have hlen : (ys ++ sourced place (c.taken r)).length = ys.length + (c.taken r).length := by
    unfold sourced
    rw [List.length_append, List.length_map]
  refine ⟨?_, ?_, ?_⟩
  · show ((openPartial c).dataSize + UInt64.ofNat (c.taken r).length).toNat = _
    rw [hlen, UInt64.toNat_add, hopen.size, UInt64.toNat_ofNat']
    omega
  · rw [hlen]
    omega
  · have hcells : ∀ (m : PassThruMsg) (n : Nat), m.bytes n = cells m.data 0 n := fun m n => by
      unfold PassThruMsg.bytes cells
      refine List.map_congr_left ?_
      intro k _
      rw [Nat.zero_add]
    have hdata : (c.nextPartial r).data =
        store (openPartial c).data (openPartial c).dataSize.toNat (c.taken r) := rfl
    rw [hlen, List.map_append, sourced_byte, hcells, hdata, hopen.size, cells_store_append,
      ← hcells, hopen.bytes]

/-- **A frame with START and END stands alone**, if it finds nothing under way. -/
theorem taken_whole {r : OpReply} (h : c.partialActive = true → c.partialMsg.Has xs)
    (hw : c.isWhole r = true) (hm : StartMeets c r) :
    (if c.partialActive then xs else []) = [] ∧ c.taken r = r.bytes.take j2534MsgDataMax := by
  have hskip : continuationSkip c (openPartial c) (c.ext r) r.bytes.length = 0 := by
    unfold continuationSkip
    by_cases hx : c.partialActive = true ∧ c.base = iso15765
    · obtain ⟨-, hlen⟩ := hm hw hx.1
      have hp : openPartial c = c.partialMsg := if_pos hx.1
      rw [if_pos hx, hp]
      exact if_pos (hlen hx.2)
    · exact if_neg hx
  have hnil : (if c.partialActive then xs else []) = [] := by
    cases hc : c.partialActive with
    | false => rfl
    | true =>
        have hsize := (h hc).size
        rw [(hm hw hc).1] at hsize
        exact List.length_eq_zero_iff.mp hsize.symm
  have hsize : (openPartial c).dataSize.toNat = 0 := by
    rw [(openPartial_has h).size, hnil]
    rfl
  refine ⟨hnil, ?_⟩
  unfold OpChannel.taken
  rw [hskip, hsize]
  rfl

end Frame

/-! ## 4. What a step keeps -/

/-- The channel is open and reassembles, and what it holds comes from frames of the run. -/
structure SourceRun.Follows (i : Fin 10) (s : SourceRun) : Prop where
  isOpen : (s.dev.ch i).isOpen = true
  base : (s.dev.ch i).base ≠ can
  held : (s.dev.ch i).partialActive = true → (s.dev.ch i).partialMsg.Has s.underway
  past : ∀ x ∈ s.underway, x.frame < s.place

/-- What is under way is younger than every START, and all there is in the books is past. -/
structure SourceRun.Ordered (i : Fin 10) (s : SourceRun) : Prop where
  starts : ∀ k ∈ s.starts, k < s.place
  wholes : ∀ w ∈ s.wholes, w.1 < s.place
  puts : ∀ p ∈ s.puts, p.place < s.place ∧ ∀ x ∈ p.bytes, x.frame < s.place
  since : (s.dev.ch i).partialActive = true → ∀ k ∈ s.starts, ∀ x ∈ s.underway, k ≤ x.frame

section Absorb

variable {i : Fin 10} {s : SourceRun} {r : OpReply}

/-- The books after a frame, but for the queue's. -/
theorem absorb_books (i : Fin 10) (s : SourceRun) (r : OpReply) :
    let c := s.dev.ch i
    let t := s.absorb i r
    t.dev = absorbFrame s.dev r ∧ t.place = s.place + 1 ∧
      t.underway = (if r.channel = i.val ∧ c.isData r then s.extended i r else s.underway) ∧
      t.starts = (if r.channel = i.val ∧ c.begins r then s.place :: s.starts else s.starts) ∧
      t.wholes =
        (if r.channel = i.val ∧ c.isWhole r then (s.place, r.bytes) :: s.wholes else s.wholes) := by
  unfold SourceRun.absorb
  simp only
  split
  · exact ⟨rfl, rfl, rfl, rfl, rfl⟩
  split
  · exact ⟨rfl, rfl, rfl, rfl, rfl⟩
  · exact ⟨rfl, rfl, rfl, rfl, rfl⟩

/-- A frame puts at most the message it offers in the queue. -/
theorem absorb_puts (i : Fin 10) (s : SourceRun) (r : OpReply) :
    ((s.absorb i r).puts = s.puts ∧ ((s.offer i r).isSome = true →
        (s.absorb i r).refused = s.place :: s.refused)) ∨
      ∃ m, s.offer i r = some m ∧
        (s.absorb i r).puts = s.puts ++ [⟨m, s.place, s.sources i r m⟩] := by
  unfold SourceRun.absorb
  cases ho : s.offer i r with
  | none => exact .inl ⟨rfl, fun e => (by cases e)⟩
  | some m =>
      simp only
      split
      · exact .inl ⟨rfl, fun _ => rfl⟩
      · exact .inr ⟨m, rfl, rfl⟩

theorem absorb_refused (i : Fin 10) (s : SourceRun) (r : OpReply) {k : Nat} (h : k ∈ s.refused) :
    k ∈ (s.absorb i r).refused := by
  unfold SourceRun.absorb
  split
  · exact h
  simp only
  split
  · exact List.mem_cons_of_mem _ h
  · exact h

/-- A START of the books is this frame's or one before it. -/
theorem absorb_starts {k : Nat} (hk : k ∈ (s.absorb i r).starts) :
    (k = s.place ∧ r.channel = i.val ∧ (s.dev.ch i).begins r = true) ∨ k ∈ s.starts := by
  obtain ⟨-, -, -, hstarts, -⟩ := absorb_books i s r
  rw [hstarts] at hk
  split at hk
  · rename_i hb
    rcases List.mem_cons.mp hk with rfl | hk
    · exact .inl ⟨rfl, hb⟩
    · exact .inr hk
  · exact .inr hk

/-- So is a frame with START and END. -/
theorem absorb_wholes {w : Nat × Bytes} (hw : w ∈ (s.absorb i r).wholes) :
    (w = (s.place, r.bytes) ∧ r.channel = i.val ∧ (s.dev.ch i).isWhole r = true) ∨
      w ∈ s.wholes := by
  obtain ⟨-, -, -, -, hwholes⟩ := absorb_books i s r
  rw [hwholes] at hw
  split at hw
  · rename_i hb
    rcases List.mem_cons.mp hw with rfl | hw
    · exact .inl ⟨rfl, hb⟩
    · exact .inr hw
  · exact .inr hw

/-- A message of the queue was there before, or is the one this frame offers. -/
theorem absorb_put {p : SourcedMsg} (hp : p ∈ (s.absorb i r).puts) :
    p ∈ s.puts ∨ ∃ m, s.offer i r = some m ∧ p = ⟨m, s.place, s.sources i r m⟩ := by
  rcases absorb_puts i s r with ⟨hp', -⟩ | ⟨m, hoff, hp'⟩
  · exact .inl (hp' ▸ hp)
  · rw [hp'] at hp
    rcases List.mem_append.mp hp with hp | hp
    · exact .inl hp
    · exact .inr ⟨m, hoff, List.mem_singleton.mp hp⟩

/-- The reassembly after a frame. -/
theorem absorb_channel (h : s.Follows i) (r : OpReply) :
    let c' := if r.channel = i.val then (s.dev.ch i).afterFrame r else s.dev.ch i
    let d' := (absorbFrame s.dev r).ch i
    d'.isOpen = true ∧ d'.protocol = (s.dev.ch i).protocol ∧ d'.partialMsg = c'.partialMsg ∧
      d'.partialActive = c'.partialActive := by
  have hch := absorbFrame_offer i ({ dev := s.dev } : FrameRun) r h.isOpen
  obtain ⟨e1, e2, e3, -⟩ := queueOption_reassembly (({ dev := s.dev } : FrameRun).folded i r)
    ((({ dev := s.dev } : FrameRun).offer i r).map (·.msg))
  have hprot := (folded_ring i ({ dev := s.dev } : FrameRun) r).2.2.2.2.2.2
  refine ⟨(absorbFrame_isOpen s.dev r i).trans h.isOpen, ?_, ?_, ?_⟩
  · rw [hch, e1, hprot]
  · rw [hch, e2]
    rfl
  · rw [hch, e3]
    rfl

/-- What a frame of the channel leaves of the reassembly: a START none, a data frame the message
    it adds to, any other what was there. -/
theorem afterFrame_cases (c : OpChannel) (r : OpReply) :
    (c.isStart r = true ∧ c.isData r = false ∧ (c.afterFrame r).partialActive = false) ∨
      (c.isData r = true ∧ (c.afterFrame r).partialMsg = c.nextPartial r ∧
        (c.afterFrame r).partialActive = !hasBit r.status opStsEnd) ∨
      (c.isStart r = false ∧ c.isData r = false ∧ c.afterFrame r = c) := by
  unfold OpChannel.afterFrame
  cases hs : c.isStart r with
  | true => exact .inl ⟨rfl, isData_start hs, rfl⟩
  | false =>
      rw [if_neg Bool.false_ne_true]
      cases hd : c.isData r with
      | true =>
          rw [if_pos rfl]
          exact .inr (.inl ⟨rfl, rfl, rfl⟩)
      | false =>
          rw [if_neg Bool.false_ne_true]
          exact .inr (.inr ⟨rfl, rfl, rfl⟩)

/-- The bytes under way after a data frame: those before it, and its own. -/
theorem extended_frame {x : SourcedByte} (hx : x ∈ s.extended i r) :
    ((s.dev.ch i).partialActive = true ∧ x ∈ s.underway) ∨ x.frame = s.place := by
  rcases List.mem_append.mp hx with hx | hx
  · split at hx
    · exact .inl ⟨‹_›, hx⟩
    · cases hx
  · exact .inr (sourced_frame hx)

/-- **A frame leaves the books of the reassembly right.** -/
theorem SourceRun.Follows.absorb (h : s.Follows i) (r : OpReply) : (s.absorb i r).Follows i := by
  obtain ⟨hdev, hplace, hunder, -, -⟩ := absorb_books i s r
  obtain ⟨h1, h2, h3, h4⟩ := absorb_channel h r
  have hpast : ∀ x ∈ (s.absorb i r).underway, x.frame < s.place + 1 := fun x hx => by
    rw [hunder] at hx
    split at hx
    · rcases extended_frame hx with ⟨-, hx⟩ | hx
      · exact Nat.lt_succ_of_lt (h.past x hx)
      · exact hx ▸ Nat.lt_succ_self _
    · exact Nat.lt_succ_of_lt (h.past x hx)
  refine ⟨by rw [hdev]; exact h1, ?_, ?_, by rw [hplace]; exact hpast⟩
  · unfold OpChannel.base
    rw [hdev, h2]
    exact h.base
  rw [hdev, h3, h4, hunder]
  by_cases hi : r.channel = i.val
  · rw [if_pos hi]
    rcases afterFrame_cases (s.dev.ch i) r with ⟨-, -, hoff⟩ | ⟨hd, hmsg, -⟩ | ⟨-, hd, hsame⟩
    · rw [hoff]
      exact fun e => (by cases e)
    · rw [if_pos ⟨hi, hd⟩, hmsg]
      exact fun _ => nextPartial_has h.held s.place r
    · rw [if_neg fun e => Bool.false_ne_true (hd ▸ e.2), hsame]
      exact h.held
  · rw [if_neg hi, if_neg fun e => hi e.1]
    exact h.held

/-- The bytes of an offered message are its data. -/
theorem offer_exact (h : s.Follows i) {m : PassThruMsg} (hm : s.offer i r = some m) :
    (s.sources i r m).map (·.byte) = m.bytes m.size := by
  unfold SourceRun.offer FrameRun.offer at hm
  unfold SourceRun.sources
  simp only at hm
  by_cases hi : r.channel = i.val
  · rw [if_pos hi, Option.map_map] at hm
    obtain ⟨m', hout, rfl⟩ := Option.map_eq_some_iff.mp hm
    cases hd : (s.dev.ch i).isData r with
    | true =>
        rw [if_pos ⟨hi, rfl⟩]
        have hnext : m' = (s.dev.ch i).nextPartial r := by
          rw [OpChannel.frameOut_data hd] at hout
          split at hout
          · exact (Option.some.inj hout).symm
          · cases hout
        exact hnext ▸ (nextPartial_has h.held s.place r).exact
    | false =>
        rw [if_neg fun e => Bool.false_ne_true e.2]
        obtain ⟨status, ind, keep, he⟩ := frameOut_frame hd hout
        exact frameMsg_exact _ r status ind keep s.place he
  · rw [if_neg hi] at hm
    rw [if_neg fun e => hi e.1]
    split at hm
    · exact frameMsg_exact _ r _ _ _ s.place (Option.some.inj hm).symm
    · cases hm

/-- What the bytes of an offered message come from: the frame itself, or what was under way. -/
theorem sources_frame {m : PassThruMsg} {x : SourcedByte} (hx : x ∈ s.sources i r m) :
    x.frame = s.place ∨ (r.channel = i.val ∧ (s.dev.ch i).isData r = true ∧
      (s.dev.ch i).partialActive = true ∧ x ∈ s.underway) := by
  unfold SourceRun.sources at hx
  split at hx
  · rename_i hd
    rcases extended_frame hx with ⟨ha, hx⟩ | hx
    · exact .inr ⟨hd.1, hd.2, ha, hx⟩
    · exact .inl hx
  · exact .inl (sourced_frame hx)

/-- A frame with START and END offers one message, of its own data. -/
theorem whole_offer (h : s.Follows i) (hi : r.channel = i.val)
    (hw : (s.dev.ch i).isWhole r = true) (hm : StartMeets (s.dev.ch i) r) :
    s.extended i r = sourced s.place (r.bytes.take j2534MsgDataMax) ∧
      ∃ m, s.offer i r = some m ∧ s.sources i r m = s.extended i r := by
  obtain ⟨hd, -, hend⟩ := isWhole_ends hw
  obtain ⟨hnil, htaken⟩ := taken_whole h.held hw hm
  refine ⟨?_, (s.dev.ch i).nextPartial r, ?_, ?_⟩
  · unfold SourceRun.extended
    rw [hnil, htaken]
    rfl
  · have hout : (s.dev.ch i).frameOut r = some ((s.dev.ch i).nextPartial r) := by
      rw [OpChannel.frameOut_data hd, hend]
      exact if_pos rfl
    unfold SourceRun.offer FrameRun.offer
    simp only
    rw [if_pos hi, hout]
    rfl
  · unfold SourceRun.sources
    rw [if_pos ⟨hi, hd⟩]

/-- **After a frame no START is younger than what is under way.** -/
theorem SourceRun.Ordered.absorb (h : s.Follows i) (ho : s.Ordered i) (r : OpReply) :
    (s.absorb i r).Ordered i := by
  obtain ⟨hdev, hplace, hunder, hstarts, -⟩ := absorb_books i s r
  obtain ⟨-, -, -, hactive⟩ := absorb_channel h r
  refine ⟨?_, ?_, ?_, ?_⟩
  · intro k hk
    rw [hplace]
    rcases absorb_starts hk with ⟨rfl, -⟩ | hk
    · exact Nat.lt_succ_self _
    · exact Nat.lt_succ_of_lt (ho.starts k hk)
  · intro w hw
    rw [hplace]
    rcases absorb_wholes hw with ⟨rfl, -⟩ | hw
    · exact Nat.lt_succ_self _
    · exact Nat.lt_succ_of_lt (ho.wholes w hw)
  · intro p hp
    rw [hplace]
    rcases absorb_put hp with hp | ⟨m, -, rfl⟩
    · exact ⟨Nat.lt_succ_of_lt (ho.puts p hp).1,
        fun x hx => Nat.lt_succ_of_lt ((ho.puts p hp).2 x hx)⟩
    · refine ⟨Nat.lt_succ_self _, ?_⟩
      intro x hx
      rcases sources_frame hx with hx | ⟨-, -, -, hx⟩
      · exact hx ▸ Nat.lt_succ_self _
      · exact Nat.lt_succ_of_lt (h.past x hx)
  · intro ha k hk x hx
    rw [hdev, hactive] at ha
    rw [hunder] at hx
    rw [hstarts] at hk
    by_cases hi : r.channel = i.val
    · rw [if_pos hi] at ha
      rcases afterFrame_cases (s.dev.ch i) r with ⟨-, -, hoff⟩ | ⟨hd, -, hend⟩ | ⟨hs, hd, hsame⟩
      · rw [hoff] at ha
        cases ha
      · -- the message goes on, so this frame has no END, and with it no START
        have hno : (s.dev.ch i).begins r = false := by
          refine Bool.eq_false_iff.mpr ?_
          intro hb
          rw [hend, (isWhole_ends (begins_isWhole hb hd)).2.2] at ha
          cases ha
        rw [if_pos ⟨hi, hd⟩] at hx
        rw [if_neg fun e => Bool.false_ne_true (hno ▸ e.2)] at hk
        rcases extended_frame hx with ⟨hact, hx⟩ | hx
        · exact ho.since hact k hk x hx
        · rw [hx]
          exact Nat.le_of_lt (ho.starts k hk)
      · -- neither a START nor data: a transmit indication
        have hno : (s.dev.ch i).begins r = false := by
          refine Bool.eq_false_iff.mpr ?_
          intro hb
          obtain ⟨hti, -⟩ := (Bool.and_eq_true _ _).mp hb
          unfold OpChannel.isData at hd
          rw [hti, bne_iff_ne.mpr h.base, hs] at hd
          cases hd
        rw [hsame] at ha
        rw [if_neg fun e => Bool.false_ne_true (hd ▸ e.2)] at hx
        rw [if_neg fun e => Bool.false_ne_true (hno ▸ e.2)] at hk
        exact ho.since ha k hk x hx
    · rw [if_neg hi] at ha
      rw [if_neg fun e => hi e.1] at hx hk
      exact ho.since ha k hk x hx

/-- What this frame offers is behind every START, its own too: with START and END it finds
    nothing under way. -/
theorem absorb_behind (h : s.Follows i) (ho : s.Ordered i)
    (hm : r.channel = i.val → StartMeets (s.dev.ch i) r) {k : Nat}
    (hk : k ∈ (s.absorb i r).starts) (m : PassThruMsg) :
    k ≤ s.place ∧ ∀ x ∈ s.sources i r m, k ≤ x.frame := by
  have hle : k ≤ s.place := by
    rcases absorb_starts hk with ⟨rfl, -⟩ | hk
    · exact Nat.le_refl _
    · exact Nat.le_of_lt (ho.starts k hk)
  refine ⟨hle, ?_⟩
  intro x hx
  rcases sources_frame hx with hx | ⟨hi, hd, hact, hx⟩
  · rw [hx]
    exact hle
  rcases absorb_starts hk with ⟨-, -, hb⟩ | hk
  · have hnil := (taken_whole h.held (begins_isWhole hb hd) (hm hi)).1
    rw [hact, if_pos rfl] at hnil
    rw [hnil] at hx
    cases hx
  · exact ho.since hact k hk x hx

/-- A message before this frame is before its START. -/
theorem absorb_before (ho : s.Ordered i) (ha : s.StartsAnew) {p : SourcedMsg} (hp : p ∈ s.puts)
    {k : Nat} (hk : k ∈ (s.absorb i r).starts) :
    (p.place < k ∧ ∀ x ∈ p.bytes, x.frame < k) ∨ (k ≤ p.place ∧ ∀ x ∈ p.bytes, k ≤ x.frame) := by
  rcases absorb_starts hk with ⟨rfl, -⟩ | hk
  · exact .inl (ho.puts p hp)
  · exact ha.oneSide p hp k hk

/-- A frame with START and END before this one keeps its message, and gets no other. -/
theorem absorb_kept (ho : s.Ordered i) (ha : s.StartsAnew) {w : Nat × Bytes} (hw : w ∈ s.wholes) :
    w.1 ∈ (s.absorb i r).refused ∨
      ((s.absorb i r).puts.filter (·.place = w.1)).map (·.bytes) =
        [sourced w.1 (w.2.take j2534MsgDataMax)] := by
  rcases ha.whole w hw with hr | hr
  · exact .inl (absorb_refused i s r hr)
  refine .inr ?_
  rcases absorb_puts i s r with ⟨hp', -⟩ | ⟨m, -, hp'⟩
  · rw [hp']
    exact hr
  · have hne : ¬s.place = w.1 := Nat.ne_of_gt (ho.wholes w hw)
    rw [hp', List.filter_append, List.filter_cons_of_neg (by simpa using hne)]
    simpa using hr

/-- One that is this frame offers its message, for which there is room or none. -/
theorem absorb_own (h : s.Follows i) (ho : s.Ordered i) (hi : r.channel = i.val)
    (hw : (s.dev.ch i).isWhole r = true) (hm : StartMeets (s.dev.ch i) r) :
    s.place ∈ (s.absorb i r).refused ∨
      ((s.absorb i r).puts.filter (·.place = s.place)).map (·.bytes) =
        [sourced s.place (r.bytes.take j2534MsgDataMax)] := by
  obtain ⟨hsrc, m, hoff, hown⟩ := whole_offer h hi hw hm
  rcases absorb_puts i s r with ⟨-, href⟩ | ⟨m', hoff', hp'⟩
  · refine .inl ?_
    rw [href (by rw [hoff]; rfl)]
    exact List.mem_cons_self
  · refine .inr ?_
    have hnone : s.puts.filter (·.place = s.place) = [] := by
      rw [List.filter_eq_nil_iff]
      exact fun p hp e => Nat.lt_irrefl _ (of_decide_eq_true e ▸ (ho.puts p hp).1)
    rw [hoff] at hoff'
    cases hoff'
    have hself : [(⟨m, s.place, s.sources i r m⟩ : SourcedMsg)].filter (·.place = s.place) =
        [⟨m, s.place, s.sources i r m⟩] := List.filter_cons_of_pos (decide_eq_true rfl)
    rw [hp', List.filter_append, hnone, hself, List.nil_append]
    show [s.sources i r m] = _
    rw [hown, hsrc]

/-- **After a frame every message is still on one side of every START.** -/
theorem SourceRun.StartsAnew.absorb (h : s.Follows i) (ho : s.Ordered i) (ha : s.StartsAnew)
    (hm : r.channel = i.val → StartMeets (s.dev.ch i) r) : (s.absorb i r).StartsAnew := by
  refine ⟨?_, ?_, ?_⟩
  · intro p hp
    rcases absorb_put hp with hp | ⟨m, hoff, rfl⟩
    · exact ha.exact p hp
    · exact offer_exact h hoff
  · intro p hp k hk
    rcases absorb_put hp with hp | ⟨m, -, rfl⟩
    · exact absorb_before ho ha hp hk
    · exact .inr (absorb_behind h ho hm hk m)
  · intro w hw
    rcases absorb_wholes hw with ⟨rfl, hi, hwhole⟩ | hw
    · exact absorb_own h ho hi hwhole (hm hi)
    · exact absorb_kept ho ha hw

end Absorb

/-! ## 5. Every run -/

/-- What an operation other than a frame leaves of the reassembly: all of it, or nothing open. -/
structure SameReassembly (c c' : OpChannel) : Prop where
  isOpen : c'.isOpen = c.isOpen
  protocol : c'.protocol = c.protocol
  held : c'.partialActive = true → c.partialActive = true ∧ c'.partialMsg = c.partialMsg

theorem pop_reassembly (d : OpDevice) (i : Fin 10) :
    SameReassembly (d.ch i) ((opDevicePop d i).2.2.ch i) := by
  unfold opDevicePop
  split
  · exact ⟨rfl, rfl, fun h => ⟨h, rfl⟩⟩
  split
  · show SameReassembly (d.ch i) ((d.setCh i (queuePop (d.ch i)).2).ch i)
    obtain ⟨head, used, e⟩ := queuePop_ring (d.ch i)
    rw [OpDevice.setCh_same, e]
    exact ⟨rfl, rfl, fun h => ⟨h, rfl⟩⟩
  · exact ⟨rfl, rfl, fun h => ⟨h, rfl⟩⟩

theorem flush_reassembly (d : OpDevice) (i : Fin 10) :
    SameReassembly (d.ch i) ((opDeviceFlushChannel d i).ch i) := by
  unfold opDeviceFlushChannel
  rw [OpDevice.setCh_same]
  exact ⟨rfl, rfl, fun h => (by cases h)⟩

section Run

variable {i : Fin 10} {s : SourceRun}

theorem SourceRun.Follows.other (h : s.Follows i) {d : OpDevice}
    (hd : SameReassembly (s.dev.ch i) (d.ch i)) : SourceRun.Follows i { s with dev := d } := by
  refine ⟨hd.isOpen.trans h.isOpen, ?_, ?_, h.past⟩
  · unfold OpChannel.base
    rw [hd.protocol]
    exact h.base
  · intro ha
    obtain ⟨hact, hmsg⟩ := hd.held ha
    exact hmsg ▸ h.held hact

theorem SourceRun.Ordered.other (ho : s.Ordered i) {d : OpDevice}
    (hd : SameReassembly (s.dev.ch i) (d.ch i)) : SourceRun.Ordered i { s with dev := d } :=
  ⟨ho.starts, ho.wholes, ho.puts, fun ha => ho.since (hd.held ha).1⟩

/-- The books at the start: whatever is under way came before, and there is no START yet. -/
structure SourceRun.Begun (i : Fin 10) (s : SourceRun) : Prop where
  follows : s.Follows i
  starts : s.starts = []
  wholes : s.wholes = []
  puts : s.puts = []

theorem SourceRun.Begun.ordered (h : s.Begun i) : s.Ordered i := by
  refine ⟨?_, ?_, ?_, ?_⟩
  · intro k hk
    rw [h.starts] at hk
    cases hk
  · intro w hw
    rw [h.wholes] at hw
    cases hw
  · intro p hp
    rw [h.puts] at hp
    cases hp
  · intro _ k hk
    rw [h.starts] at hk
    cases hk

theorem SourceRun.Begun.anew (h : s.Begun i) : s.StartsAnew := by
  refine ⟨?_, ?_, ?_⟩
  · intro p hp
    rw [h.puts] at hp
    cases hp
  · intro p hp
    rw [h.puts] at hp
    cases hp
  · intro w hw
    rw [h.wholes] at hw
    cases hw

theorem anew_run {ops : List ReassemblyOp} (h : s.Follows i) (ho : s.Ordered i)
    (ha : s.StartsAnew) (hm : StartsMeet i s ops) : (s.run i ops).StartsAnew := by
  induction ops generalizing s with
  | nil => exact ha
  | cons op ops ih =>
      cases op with
      | frame r => exact ih (h.absorb r) (ho.absorb h r) (ha.absorb h ho hm.1) hm.2
      | pop =>
          have hd := pop_reassembly s.dev i
          exact ih (h.other hd) (ho.other hd) ⟨ha.exact, ha.oneSide, ha.whole⟩ hm
      | flush =>
          have hd := flush_reassembly s.dev i
          exact ih (h.other hd) (ho.other hd) ⟨ha.exact, ha.oneSide, ha.whole⟩ hm

/-- **A START begins a new message**, whatever is under way when it comes, in every run in which
    a frame with START and END finds nothing under way. -/
theorem start_anew {ops : List ReassemblyOp} (h : s.Begun i) (hm : StartsMeet i s ops) :
    (s.run i ops).StartsAnew := anew_run h.follows h.ordered h.anew hm

end Run

/-! ## 6. A lost END -/

/-- A frame for channel 3 with these bytes. -/
def kLineData (status : UInt8) (bs : Bytes) : OpReply :=
  { kind := .frame, channel := 3, status := status, data := some bs }

/-- A data frame whose END is lost, a START with its message, a frame that is a whole message while
    nothing is under way, and one behind it whose START comes alone. -/
def lostEndOps : List ReassemblyOp :=
  [.frame (kLineData 0x00 [0x11, 0x22]), .frame (kLineData 0x80 []),
    .frame (kLineData 0x40 [0x7E, 0x00]), .frame (kLineData 0xC0 [0xC1, 0x8F]),
    .frame (kLineData 0x80 []), .frame (kLineData 0x40 [0x3E])]

/-- The whole message found nothing under way. -/
theorem start_anew_lostEnd : (SourceRun.run 3 { dev := kLineDevice } lostEndOps).StartsAnew ∧
    ((SourceRun.run 3 { dev := kLineDevice } lostEndOps).wholes).map (·.2) = [[0xC1, 0x8F]] := by
  have hfollows : SourceRun.Follows 3 { dev := kLineDevice } :=
    ⟨rfl, by decide, fun e => (by cases e), fun _ hx => absurd hx List.not_mem_nil⟩
  refine ⟨start_anew ⟨hfollows, rfl, rfl, rfl⟩ ⟨?_, ?_, ?_, ?_, ?_, ?_, trivial⟩, by decide⟩
  · exact fun _ hw => absurd hw (by decide)
  · exact fun _ hw => absurd hw (by decide)
  · exact fun _ hw => absurd hw (by decide)
  · exact fun _ _ hactive => absurd hactive (by decide)
  · exact fun _ hw => absurd hw (by decide)
  · exact fun _ hw => absurd hw (by decide)

/-- **A frame with START and END is added to what a lost END left**: three bytes, the first two
    from before it. -/
theorem wholeFrame_added : ¬∀ (i : Fin 10) (s : SourceRun) (ops : List ReassemblyOp),
    s.Begun i → (s.run i ops).StartsAnew := by
  intro h
  have hfollows : SourceRun.Follows 3 { dev := kLineDevice } :=
    ⟨rfl, by decide, fun e => (by cases e), fun _ hx => absurd hx List.not_mem_nil⟩
  have hrun := (h 3 { dev := kLineDevice }
    [.frame (kLineData 0x00 [0x11, 0x22]), .frame (kLineData 0xC0 [0x7E])]
    ⟨hfollows, rfl, rfl, rfl⟩).whole (1, [0x7E]) (by decide)
  exact absurd hrun (by decide)

end Openport
