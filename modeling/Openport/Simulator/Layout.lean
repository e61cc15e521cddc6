/-
  File:      Openport/Simulator/Layout.lean
  Subject:   The simulator's frames against the driver's reading of them.

  On channels 3, 4 and 6 the driver puts together the very message the simulator
  sent. Channels 7, 8 and 9 are K-line channels to the driver and not to the
  simulator, which frames them as CAN: the driver takes the timestamps for data,
  and delivers a longer message.
-/
import Openport.Simulator.Frames
import Openport.Device.Gathering

namespace Openport.Simulator

open Lib.Decimal Lib.Framing

/-! ## 1. From the wire to the channel -/

/-- The frame in what is handed on, if it is one. -/
def frameIn : Handed → Option OpReply
  | .frame r => some r
  | _ => none

/-- The frames `consume_accum` finds in a stream. -/
def framesIn (bs : Bytes) : List OpReply := (drain consumeStep bs).1.filterMap frameIn

/-- The stream is read to its end, and its frames put exactly one message that is no indication in
    the queue of channel `i`: `payload`. -/
def Delivers (i : Fin 10) (d : OpDevice) (payload : Bytes) (stream : Option Bytes) : Prop :=
  ∃ bs, stream = some bs ∧ (drain consumeStep bs).2 = [] ∧
    ((({ dev := d } : FrameRun).run i (framesIn bs)).puts.filter (·.carried.isSome)).map
      (fun p => p.msg.bytes p.msg.size) = [payload]

/-- The reply `op_parse` gives for a frame. -/
def frameOf (ch : Fin 10) (f : SimFrame) : OpReply := frameReply ch.val f.1 f.2

theorem decimal_channel : ∀ ch : Fin 10, decimal ch.val = [digitByte ch.val] := by decide

/-- A frame that fits its length byte is a frame record on the wire. -/
theorem rawFrame_wire {ch : Fin 10} {f : SimFrame} (h : f.2.length ≤ 254) :
    rawFrame ch f = some (Record.frame ch f.1 f.2).wire := by
  have hlen : ¬255 < (f.1 :: f.2).length := by
    rw [List.length_cons]
    omega
  unfold rawFrame
  rw [decimal_channel]
  simp only
  rw [if_neg hlen, List.length_cons, Nat.add_comm f.2.length 1]
  rfl

/-- **A row of frames that fit is emitted, and read back frame by frame.** -/
theorem emit_frames (ch : Fin 10) {fs : List SimFrame} (h : ∀ f ∈ fs, f.2.length ≤ 254) :
    ∃ bs, emit ch fs = some bs ∧ (drain consumeStep bs).2 = [] ∧
      framesIn bs = fs.map (frameOf ch) := by
  have hmap : fs.mapM (rawFrame ch) = some (fs.map fun f => (Record.frame ch f.1 f.2).wire) := by
    induction fs with
    | nil => rfl
    | cons f fs ih =>
        rw [List.mapM_cons, rawFrame_wire (h f List.mem_cons_self),
          ih fun g hg => h g (List.mem_cons_of_mem _ hg)]
        rfl
  have hdrain := drain_whole consumeStep_shrinks
    (fs.map fun f => ((Record.frame ch f.1 f.2).wire, Handed.frame (frameOf ch f))) fun w hw => by
      obtain ⟨f, hf, rfl⟩ := List.mem_map.mp hw
      exact record_code (frame_wellFormed ch f.1 (h f hf))
  rw [List.map_map, List.map_map] at hdrain
  refine ⟨_, by unfold emit; rw [hmap]; rfl, ?_, ?_⟩
  · have e := congrArg Prod.snd hdrain
    exact e
  · have e := congrArg Prod.fst hdrain
    unfold framesIn
    rw [show (drain consumeStep (fs.map fun f => (Record.frame ch f.1 f.2).wire).flatten).1 =
      fs.map fun f => Handed.frame (frameOf ch f) from e, List.filterMap_map]
    exact congrFun List.filterMap_eq_map fs

/-- What a frame's data are: the body, but for the timestamp where there is one. -/
theorem frameOf_bytes (ch : Fin 10) (f : SimFrame) : (frameOf ch f).bytes =
    if opFrameHasTimestamp ch.val f.1 f.2.length = true then f.2.drop 4 else f.2 := by
  show (frameReply ch.val f.1 f.2).bytes = _
  rcases frameReply_cases ch.val f.1 f.2 with ⟨b0, b1, b2, b3, data, ht, hb, e⟩ | ⟨ht, e⟩
  · rw [e, if_pos ht, hb]
    rfl
  · rw [e, if_neg (by rw [ht]; exact Bool.false_ne_true)]
    rfl

theorem frameOf_status (ch : Fin 10) (f : SimFrame) : (frameOf ch f).status = f.1 ∧
    (frameOf ch f).channel = ch.val :=
  ⟨frameReply_status ch.val f.1 f.2, frameReply_channel ch.val f.1 f.2⟩

/-! ## 2. Chunks -/

/-- The chunks of a segmented message: 69 bytes, then 70 at a time. -/
def chunksOf (body : Bytes) : List Bytes :=
  if 69 < body.length then body.take 69 :: split (body.drop 69) 70 else [body]

theorem chunksOf_flatten (body : Bytes) : (chunksOf body).flatten = body := by
  unfold chunksOf
  by_cases h : 69 < body.length
  · rw [if_pos h, List.flatten_cons, split_flatten (by decide), List.take_append_drop]
  · rw [if_neg h, List.flatten_cons, List.flatten_nil, List.append_nil]

theorem mem_chunksOf {body c : Bytes} (h : c ∈ chunksOf body) : c.length ≤ 70 := by
  unfold chunksOf at h
  by_cases hl : 69 < body.length
  · rw [if_pos hl] at h
    rcases List.mem_cons.mp h with rfl | h
    · exact Nat.le_trans (List.length_take_le _ _) (by decide)
    · exact mem_split h
  · rw [if_neg hl] at h
    rw [List.mem_singleton.mp h]
    omega

theorem chunksOf_ne_nil (body : Bytes) : chunksOf body ≠ [] := by
  unfold chunksOf
  split <;> exact List.cons_ne_nil _ _

/-- The frames of a CAN message under the default settings, received or echoed. -/
theorem canFrames_default (payload : Bytes) : canFrames payload .measured .idEveryChunk =
    if 7 < (payload.drop 4).length then
      (stsStart, payload.take 4) ::
        ((chunksOf (payload.drop 4)).dropLast.map fun c => (0x00, payload.take 4 ++ c)) ++
        [(stsEnd, payload.take 4 ++ (chunksOf (payload.drop 4)).getLastD [])]
    else [(stsEnd, payload)] := by
  unfold canFrames chunksOf
  simp only [true_and]
  by_cases h : 7 < (payload.drop 4).length
  · rw [if_pos h, if_pos h]
  · have hlen : payload.length ≤ maxFramePayload := by
      rw [List.length_drop] at h
      have hmax : maxFramePayload = 250 := rfl
      omega
    rw [if_neg h, if_pos hlen, if_neg h]
    simp only [h, if_false, List.nil_append]

/-! ## 3. The shape of what is sent -/

/-- A row of frames is one message: an announcement at most, frames that carry on, an END. -/
structure Shaped (lb : UInt8) (fs starts more : List SimFrame) (last : SimFrame) : Prop where
  frames : fs = starts ++ (more ++ [last])
  one : starts.length ≤ 1
  starts : ∀ f ∈ starts, f.1 = stsStart ||| lb
  more : ∀ f ∈ more, f.1 = lb
  last : last.1 = stsEnd ||| lb
  fits : ∀ f ∈ fs, f.2.length ≤ 254

section Shape

variable {ch : Fin 10} {d : OpDevice} {lb : UInt8} {fs starts more : List SimFrame}
  {last : SimFrame}

/-- The bits of the status bytes the simulator sends. -/
theorem status_bits (hlb : lb = 0 ∨ lb = stsLoopback) :
    (hasBit (stsStart ||| lb) opStsTxInd = false ∧ hasBit (stsStart ||| lb) opStsStart = true ∧
      hasBit (stsStart ||| lb) opStsEnd = false) ∧
    (hasBit lb opStsTxInd = false ∧ hasBit lb opStsStart = false ∧ hasBit lb opStsEnd = false) ∧
    (hasBit (stsEnd ||| lb) opStsTxInd = false ∧ hasBit (stsEnd ||| lb) opStsEnd = true) ∧
    (hasBit (stsStart ||| lb) opStsExtAddr = false ∧ hasBit lb opStsExtAddr = false ∧
      hasBit (stsEnd ||| lb) opStsExtAddr = false) ∧
    (hasBit (stsStart ||| lb) (opStsStart ||| opStsEnd) = true ∧
      hasBit lb (opStsStart ||| opStsEnd) = false ∧
      hasBit (stsEnd ||| lb) (opStsStart ||| opStsEnd) = true) := by
  rcases hlb with rfl | rfl <;> decide

/-- What a shaped row of frames carries. -/
def shapeBytes (ch : Fin 10) (iso : Bool) (starts more : List SimFrame) (last : SimFrame) : Bytes :=
  messageBytes iso (starts.map (frameOf ch)) (more.map (frameOf ch)) (frameOf ch last)

/-- The frames the driver reads of a shaped row announce, carry and close one message. -/
theorem Shaped.replies (h : Shaped lb fs starts more last) (hlb : lb = 0 ∨ lb = stsLoopback)
    (ch : Fin 10) :
    (∀ r ∈ starts.map (frameOf ch), r.channel = ch.val ∧ r.Announces) ∧
    (∀ r ∈ more.map (frameOf ch), r.channel = ch.val ∧ r.Carries) ∧
    (frameOf ch last).channel = ch.val ∧ (frameOf ch last).Closes := by
  obtain ⟨⟨b1, b2, b3⟩, ⟨b4, b5, b6⟩, ⟨b7, b8⟩, -, -⟩ := status_bits hlb
  refine ⟨?_, ?_, ?_⟩
  · intro r hr
    obtain ⟨f, hf, rfl⟩ := List.mem_map.mp hr
    obtain ⟨e1, e2⟩ := frameOf_status ch f
    refine ⟨e2, ?_, ?_, ?_⟩ <;> rw [e1, h.starts f hf]
    · exact b1
    · exact b2
    · exact b3
  · intro r hr
    obtain ⟨f, hf, rfl⟩ := List.mem_map.mp hr
    obtain ⟨e1, e2⟩ := frameOf_status ch f
    refine ⟨e2, ?_, ?_, ?_⟩ <;> rw [e1, h.more f hf]
    · exact b4
    · exact b5
    · exact b6
  · obtain ⟨e1, e2⟩ := frameOf_status ch last
    refine ⟨e2, ?_, ?_⟩ <;> rw [e1, h.last]
    · exact b7
    · exact b8

/-- What the driver reads of a shaped row of frames. -/
theorem Shaped.emitted (h : Shaped lb fs starts more last) (ch : Fin 10) : ∃ bs,
    emit ch fs = some bs ∧ (drain consumeStep bs).2 = [] ∧
      framesIn bs = starts.map (frameOf ch) ++ (more.map (frameOf ch) ++ [frameOf ch last]) := by
  obtain ⟨bs, hemit, hrest, hframes⟩ := emit_frames ch h.fits
  refine ⟨bs, hemit, hrest, ?_⟩
  rw [hframes, h.frames, List.map_append, List.map_append]
  rfl

/-- **What is delivered of a shaped row of frames** is what it carries, the first 4128 bytes of it,
    and nothing else; and it is, if there is room. -/
theorem delivers_shaped (h : Shaped lb fs starts more last) (hlb : lb = 0 ∨ lb = stsLoopback)
    (hatt : Attached ch { dev := d }) (payload : Bytes) :
    (Delivers ch d payload (emit ch fs) →
      payload = (shapeBytes ch (d.ch ch).iso starts more last).take j2534MsgDataMax) ∧
    ((d.ch ch).rq.isSome = true →
      (d.ch ch).rqUsed + messageRoom (d.ch ch).iso (starts.map (frameOf ch))
        (more.map (frameOf ch)) (frameOf ch last) ≤ opRxqBytes →
      payload = (shapeBytes ch (d.ch ch).iso starts more last).take j2534MsgDataMax →
      Delivers ch d payload (emit ch fs)) := by
  obtain ⟨hst, hmore, hown, hlast⟩ := h.replies hlb ch
  obtain ⟨bs, hemit, hrest, hframes⟩ := h.emitted ch
  obtain ⟨inds, ms, hputs, hinds, hms, hroom⟩ := message_run hatt rfl
    (by rw [List.length_map]; exact h.one) hst hmore hown hlast
  rw [← hframes] at hputs
  have hnone : inds.filter (·.carried.isSome) = [] := by
    rw [List.filter_eq_nil_iff]
    intro p hp
    rw [hinds p hp]
    exact Bool.false_ne_true
  have hfilter : (({ dev := d } : FrameRun).run ch (framesIn bs)).puts.filter (·.carried.isSome) =
      ms.filter (·.carried.isSome) := by
    rw [hputs]
    show (inds ++ ms).filter _ = _
    rw [List.filter_append, hnone, List.nil_append]
  constructor
  · rintro ⟨bs', he, -, hdel⟩
    rw [hemit] at he
    obtain rfl := Option.some.inj he
    rw [hfilter] at hdel
    rcases hms with rfl | ⟨m, rfl, hm⟩
    · cases hdel
    · have e : [m.bytes m.size] = [payload] := hdel
      rw [hm] at e
      exact (List.cons.inj e).1.symm
  · intro hrq hfit hpay
    refine ⟨bs, hemit, hrest, ?_⟩
    rw [hfilter]
    rcases hms with rfl | ⟨m, rfl, hm⟩
    · exact absurd rfl (hroom hrq hfit)
    · show [m.bytes m.size] = [payload]
      rw [hm, hpay]
      rfl

end Shape

/-! ## 4. What the frames carry -/

/-- The frames of a CAN message: an announcement with the id at most, and chunks that all begin with
    the id. -/
structure CanShape (payload : Bytes) (fs starts more : List SimFrame) (last : SimFrame)
    (chunks : List Bytes) : Prop where
  frames : fs = starts ++ (more ++ [last])
  one : starts.length ≤ 1
  announces : ∀ f ∈ starts, f = (stsStart, payload.take 4)
  carries : ∀ f ∈ more, f.1 = 0
  closes : last.1 = stsEnd
  flatten : chunks.flatten = payload.drop 4
  bodies : (more ++ [last]).map (·.2) = chunks.map (payload.take 4 ++ ·)
  fits : ∀ c ∈ chunks, c.length ≤ 70

theorem canFrames_shape (payload : Bytes) : ∃ starts more last chunks,
    CanShape payload (canFrames payload .measured .idEveryChunk) starts more last chunks := by
  rw [canFrames_default]
  by_cases h : 7 < (payload.drop 4).length
  · rw [if_pos h]
    have hne := chunksOf_ne_nil (payload.drop 4)
    have hparts : (chunksOf (payload.drop 4)).dropLast ++
      [(chunksOf (payload.drop 4)).getLastD []] =
        chunksOf (payload.drop 4) := by
      rw [List.getLastD_eq_getLast?, List.getLast?_eq_some_getLast hne, Option.getD_some]
      exact List.dropLast_append_getLast hne
    refine ⟨[(stsStart, payload.take 4)], _, _, chunksOf (payload.drop 4), rfl, Nat.le_refl 1,
      fun f hf => List.mem_singleton.mp hf, ?_, rfl, chunksOf_flatten _, ?_,
      fun c hc => mem_chunksOf hc⟩
    · intro f hf
      obtain ⟨c, -, rfl⟩ := List.mem_map.mp hf
      rfl
    · rw [List.map_append, List.map_map]
      conv => rhs; rw [← hparts, List.map_append]
      rfl
  · rw [if_neg h]
    refine ⟨[], [], (stsEnd, payload), [payload.drop 4], rfl, Nat.zero_le 1,
      fun f hf => absurd hf List.not_mem_nil, fun f hf => absurd hf List.not_mem_nil, rfl,
      List.append_nil _, ?_, ?_⟩
    · show [payload] = [payload.take 4 ++ payload.drop 4]
      rw [List.take_append_drop]
    · intro c hc
      rw [List.mem_singleton.mp hc]
      omega

theorem mem_stamp {ts : Nat → UInt32} {lb : UInt8} {f : SimFrame} :
    ∀ {k : Nat} {fs : List SimFrame}, f ∈ stamp ts lb k fs → ∃ g ∈ fs, ∃ t,
      f = (g.1 ||| lb, be32 t ++ g.2)
  | _, [], h => absurd h List.not_mem_nil
  | k, g :: gs, h => by
      unfold stamp at h
      rcases List.mem_cons.mp h with rfl | h
      · exact ⟨g, List.mem_cons_self, _, rfl⟩
      · obtain ⟨g', hg', t, e⟩ := mem_stamp h
        exact ⟨g', List.mem_cons_of_mem _ hg', t, e⟩

theorem stamp_append (ts : Nat → UInt32) (lb : UInt8) : ∀ (k : Nat) (fs gs : List SimFrame),
    stamp ts lb k (fs ++ gs) = stamp ts lb k fs ++ stamp ts lb (k + fs.length) gs
  | _, [], _ => rfl
  | k, f :: fs, gs => by
      have hk : k + 1 + fs.length = k + (f :: fs).length := by
        rw [List.length_cons]
        omega
      rw [List.cons_append, stamp, stamp_append ts lb (k + 1) fs gs, hk]
      rfl

theorem stamp_length (ts : Nat → UInt32) (lb : UInt8) : ∀ (k : Nat) (fs : List SimFrame),
    (stamp ts lb k fs).length = fs.length
  | _, [] => rfl
  | k, f :: fs => by rw [stamp, List.length_cons, stamp_length ts lb (k + 1) fs, List.length_cons]

/-- Behind the timestamps is what was stamped. -/
theorem stamp_bodies (ts : Nat → UInt32) (lb : UInt8) : ∀ (k : Nat) (fs : List SimFrame),
    (stamp ts lb k fs).map (fun f => f.2.drop 4) = fs.map (·.2)
  | _, [] => rfl
  | k, f :: fs => by
      rw [stamp, List.map_cons, stamp_bodies ts lb (k + 1) fs]
      rfl

/-- The timestamps make the row longer. -/
theorem stamp_grows (ts : Nat → UInt32) (lb : UInt8) : ∀ (k : Nat) (fs : List SimFrame),
    ((stamp ts lb k fs).map (·.2)).flatten.length =
      4 * fs.length + (fs.map (·.2)).flatten.length
  | _, [] => rfl
  | k, f :: fs => by
      have hbe : (be32 (ts k)).length = 4 := rfl
      rw [stamp, List.map_cons, List.flatten_cons, List.length_append, stamp_grows ts lb (k + 1) fs,
        List.map_cons, List.flatten_cons, List.length_append, List.length_append, List.length_cons,
        hbe]
      omega

/-- So does a header before every chunk. -/
theorem headed_length (header : Bytes) : ∀ cs : List Bytes,
    (cs.map (header ++ ·)).flatten.length = cs.length * header.length + cs.flatten.length
  | [] => by rw [List.length_nil, Nat.zero_mul]; rfl
  | c :: cs => by
      rw [List.map_cons, List.flatten_cons, List.length_append, List.length_append,
        headed_length header cs, List.length_cons, List.flatten_cons, List.length_append,
        Nat.succ_mul]
      omega

section Stamped

variable {payload : Bytes} {fs starts more : List SimFrame} {last : SimFrame} {chunks : List Bytes}
  (ts : Nat → UInt32) (lb : UInt8)

/-- The END frame of a stamped message. -/
def stampLast (starts more : List SimFrame) (last : SimFrame) : SimFrame :=
  (last.1 ||| lb, be32 (ts (starts.length + more.length)) ++ last.2)

theorem CanShape.mem_body (h : CanShape payload fs starts more last chunks) {f : SimFrame}
    (hf : f ∈ more ++ [last]) : ∃ c ∈ chunks, f.2 = payload.take 4 ++ c := by
  have hmem : f.2 ∈ (more ++ [last]).map (·.2) := List.mem_map.mpr ⟨f, hf, rfl⟩
  rw [h.bodies] at hmem
  obtain ⟨c, hc, e⟩ := List.mem_map.mp hmem
  exact ⟨c, hc, e.symm⟩

/-- The data frames of a stamped message. -/
theorem stamp_data (starts more : List SimFrame) (last : SimFrame) :
    stamp ts lb starts.length (more ++ [last]) =
      stamp ts lb starts.length more ++ [stampLast ts lb starts more last] := by
  rw [stamp_append]
  rfl

/-- A stamped CAN message is a shaped row of frames. -/
theorem CanShape.stamped (h : CanShape payload fs starts more last chunks) :
    Shaped lb (stamp ts lb 0 fs) (stamp ts lb 0 starts) (stamp ts lb starts.length more)
      (stampLast ts lb starts more last) := by
  have hid : (payload.take 4).length ≤ 4 := List.length_take_le _ _
  refine ⟨?_, ?_, ?_, ?_, ?_, ?_⟩
  · rw [h.frames, stamp_append, Nat.zero_add, stamp_data]
  · rw [stamp_length]
    exact h.one
  · intro f hf
    obtain ⟨g, hg, t, rfl⟩ := mem_stamp hf
    rw [h.announces g hg]
  · intro f hf
    obtain ⟨g, hg, t, rfl⟩ := mem_stamp hf
    show g.1 ||| lb = lb
    rw [h.carries g hg]
    exact UInt8.zero_or
  · show last.1 ||| lb = _
    rw [h.closes]
  · intro f hf
    obtain ⟨g, hg, t, rfl⟩ := mem_stamp hf
    have hbe : (be32 t).length = 4 := rfl
    have hg2 : g.2.length ≤ 74 := by
      rw [h.frames] at hg
      rcases List.mem_append.mp hg with hg | hg
      · rw [h.announces g hg]
        exact Nat.le_trans hid (by decide)
      · obtain ⟨c, hc, e⟩ := h.mem_body hg
        have hfit := h.fits c hc
        rw [e, List.length_append]
        omega
    show (be32 t ++ g.2).length ≤ 254
    rw [List.length_append]
    omega

/-- On channel 6 every frame has its timestamp taken off. -/
theorem frameOf_iso (f : SimFrame) (hlen : 4 ≤ f.2.length) : (frameOf 6 f).bytes = f.2.drop 4 := by
  have hch : (6 : Fin 10).val = 5 ∨ (6 : Fin 10).val = 6 := Or.inr rfl
  rw [frameOf_bytes]
  unfold opFrameHasTimestamp
  rw [if_pos hch, if_pos (decide_eq_true hlen)]

/-- **An ISO 15765 message comes back**: the timestamps go, and the id all but once. -/
theorem CanShape.isoBytes (h : CanShape payload fs starts more last chunks)
    (hid : (payload.take 4).length = 4) :
    shapeBytes 6 true (stamp ts 0 0 starts) (stamp ts 0 starts.length more)
      (stampLast ts 0 starts more last) = payload := by
  have hstamped : ∀ {k : Nat} {gs : List SimFrame}, ∀ f ∈ stamp ts 0 k gs, 4 ≤ f.2.length := by
    intro k gs f hf
    obtain ⟨g, -, t, rfl⟩ := mem_stamp hf
    show 4 ≤ (be32 t ++ g.2).length
    rw [List.length_append]
    exact Nat.le_add_right 4 _
  have hbytes : (stamp ts 0 starts.length (more ++ [last])).map (fun f => (frameOf 6 f).bytes) =
      chunks.map (payload.take 4 ++ ·) := by
    rw [← h.bodies, ← stamp_bodies ts 0 starts.length]
    exact List.map_congr_left fun f hf => frameOf_iso f (hstamped f hf)
  obtain ⟨-, -, -, ⟨e1, e2, e3⟩, -⟩ := status_bits (Or.inl rfl : (0 : UInt8) = 0 ∨ _)
  have hann : ((stamp ts 0 0 starts).map (frameOf 6)).any OpReply.saysExt = false := by
    rw [List.any_eq_false]
    intro r hr
    obtain ⟨f, hf, rfl⟩ := List.mem_map.mp hr
    obtain ⟨g, hg, t, rfl⟩ := mem_stamp hf
    unfold OpReply.saysExt
    rw [(frameOf_status 6 _).1, h.announces g hg, e1]
    exact Bool.false_ne_true
  have hrows : frameOf 6 (stampLast ts 0 starts more last) ::
      ((stamp ts 0 starts.length more).map (frameOf 6)).reverse =
      ((stamp ts 0 starts.length (more ++ [last])).map (frameOf 6)).reverse := by
    rw [stamp_data, List.map_append, List.reverse_append]
    rfl
  unfold shapeBytes messageBytes
  rw [hann, hrows]
  rw [carried_iso hid _ chunks.reverse]
  · rw [List.reverse_reverse, h.flatten, List.take_append_drop]
  · rw [← hrows]
    exact List.cons_ne_nil _ _
  · rw [List.map_reverse, List.map_map, List.map_reverse, ← hbytes]
    rfl
  · intro r hr
    obtain ⟨f, hf, rfl⟩ := List.mem_map.mp (List.mem_reverse.mp hr)
    obtain ⟨g, hg, t, rfl⟩ := mem_stamp hf
    unfold OpReply.saysExt
    rw [(frameOf_status 6 _).1]
    rcases List.mem_append.mp hg with hg | hg
    · rw [h.carries g hg]
      exact e2
    · rw [List.mem_singleton.mp hg, h.closes]
      exact e3

/-- The announcement of an ISO 15765 message takes the room of an id. -/
theorem CanShape.announceRoom (h : CanShape payload fs starts more last chunks) :
    (((stamp ts 0 0 starts).map (frameOf 6)).map fun r => qhdrSize + r.bytes.length).sum ≤
      qhdrSize + 4 := by
  have hone := h.one
  rcases starts with _ | ⟨f, _ | ⟨g, rest⟩⟩
  · exact Nat.zero_le _
  · have hf := h.announces f List.mem_cons_self
    have hbe : (be32 (ts 0)).length = 4 := rfl
    have hlen : 4 ≤ (be32 (ts 0) ++ f.2).length := by
      rw [List.length_append]
      omega
    have hbytes : (frameOf 6 (f.1 ||| 0, be32 (ts 0) ++ f.2)).bytes = payload.take 4 := by
      rw [frameOf_iso _ hlen, hf]
      rfl
    have hid : (payload.take 4).length ≤ 4 := List.length_take_le _ _
    show qhdrSize + (frameOf 6 (f.1 ||| 0, be32 (ts 0) ++ f.2)).bytes.length + 0 ≤ _
    rw [hbytes]
    omega
  · simp only [List.length_cons] at hone
    omega

/-- A frame with more than a timestamp in it keeps all of it on the other K-line channels. -/
theorem frameOf_kLine {ch : Fin 10} (h5 : ch ≠ 5) (h6 : ch ≠ 6) (f : SimFrame)
    (hlen : f.2.length ≠ 4) : (frameOf ch f).bytes = f.2 := by
  have hch : ¬(ch.val = 5 ∨ ch.val = 6) := by
    rintro (e | e)
    · exact h5 (Fin.ext e)
    · exact h6 (Fin.ext e)
  rw [frameOf_bytes]
  unfold opFrameHasTimestamp
  rw [if_neg hch, decide_eq_false hlen, Bool.and_false]
  rfl

/-- **A CAN message on a K-line channel grows**: the driver takes the timestamps for data. -/
theorem CanShape.grows (h : CanShape payload fs starts more last chunks) {ch : Fin 10} (h5 : ch ≠ 5)
    (h6 : ch ≠ 6) (hpos : 0 < payload.length) :
    payload.length < (shapeBytes ch false (stamp ts lb 0 starts) (stamp ts lb starts.length more)
      (stampLast ts lb starts more last)).length := by
  have hlen : ((more ++ [last]).map (·.2)).length = chunks.length := by
    rw [h.bodies, List.length_map]
  have hdata : (stamp ts lb starts.length (more ++ [last])).map (fun f => (frameOf ch f).bytes) =
      (stamp ts lb starts.length (more ++ [last])).map (·.2) := by
    refine List.map_congr_left fun f hf => frameOf_kLine h5 h6 f ?_
    obtain ⟨g, hg, t, rfl⟩ := mem_stamp hf
    obtain ⟨c, -, e⟩ := h.mem_body hg
    have hbe : (be32 t).length = 4 := rfl
    show (be32 t ++ g.2).length ≠ 4
    rw [e, List.length_append, List.length_append, List.length_take]
    omega
  have hbytes : shapeBytes ch false (stamp ts lb 0 starts) (stamp ts lb starts.length more)
      (stampLast ts lb starts more last) =
      ((stamp ts lb starts.length (more ++ [last])).map (·.2)).flatten := by
    unfold shapeBytes messageBytes
    rw [carried_kLine, ← hdata, stamp_data, List.reverse_cons, List.reverse_reverse,
      List.map_append, List.map_append, List.map_map]
    rfl
  have hone : payload.length ≤ chunks.length * (payload.take 4).length + chunks.flatten.length := by
    rw [h.flatten, List.length_drop, List.length_take]
    rw [List.length_map, List.length_append, List.length_singleton] at hlen
    have hle : min 4 payload.length ≤ chunks.length * min 4 payload.length :=
      Nat.le_mul_of_pos_left _ (by omega)
    omega
  rw [hbytes, stamp_grows, h.bodies, headed_length, List.length_append, List.length_singleton]
  omega

end Stamped

/-! ## 5. The K-line layout -/

section KLine

variable (t : UInt32) (data : Bytes) (lb : UInt8)

/-- The data frames of `_send_kline` under the default settings. -/
def kLineChunks : List SimFrame := (split data 254).map fun chunk => (lb, chunk)

theorem sendKline_shaped : Shaped lb (sendKline {} t data lb) [(stsStart ||| lb, be32 t)]
    (kLineChunks data lb) (stsEnd ||| lb, be32 t) := by
  refine ⟨rfl, Nat.le_refl 1, ?_, ?_, rfl, ?_⟩
  · intro f hf
    rw [List.mem_singleton.mp hf]
  · intro f hf
    obtain ⟨c, -, rfl⟩ := List.mem_map.mp hf
    rfl
  · intro f hf
    have hbe : (be32 t).length ≤ 254 := Nat.le_of_ble_eq_true rfl
    rcases List.mem_append.mp hf with hf | hf
    · rcases List.mem_cons.mp hf with rfl | hf
      · exact hbe
      · obtain ⟨c, hc, rfl⟩ := List.mem_map.mp hf
        exact mem_split hc
    · rw [List.mem_singleton.mp hf]
      exact hbe

variable {ch : Fin 10} (h5 : ch ≠ 5) (h6 : ch ≠ 6) {lb} (hlb : lb = 0 ∨ lb = stsLoopback)

/-- The timestamp of a START or an END is all that is in it. -/
theorem frameOf_stamp {status : UInt8} (hst : hasBit status (opStsStart ||| opStsEnd) = true) :
    (frameOf ch (status, be32 t)).bytes = [] := by
  have hbe : (be32 t).length = 4 := rfl
  rw [frameOf_bytes]
  unfold opFrameHasTimestamp
  simp only
  rw [hst, hbe]
  split <;> rfl

include h5 h6 in
/-- A data frame is all data, four bytes of it too. -/
theorem frameOf_chunk {status : UInt8} (hst : hasBit status (opStsStart ||| opStsEnd) = false)
    (c : Bytes) : (frameOf ch (status, c)).bytes = c := by
  have hch : ¬(ch.val = 5 ∨ ch.val = 6) := by
    rintro (e | e)
    · exact h5 (Fin.ext e)
    · exact h6 (Fin.ext e)
  rw [frameOf_bytes]
  unfold opFrameHasTimestamp
  simp only
  rw [if_neg hch, hst, Bool.false_and]
  rfl

include h5 h6 hlb in
/-- **A K-line message comes back**, whether a chunk is as long as a timestamp or not. -/
theorem sendKline_bytes : shapeBytes ch false [(stsStart ||| lb, be32 t)] (kLineChunks data lb)
    (stsEnd ||| lb, be32 t) = data := by
  obtain ⟨-, -, -, -, -, hchunk, hend⟩ := status_bits hlb
  have hdata : ((kLineChunks data lb).map (frameOf ch)).map OpReply.bytes = split data 254 := by
    unfold kLineChunks
    rw [List.map_map, List.map_map]
    exact (List.map_congr_left fun c _ => frameOf_chunk h5 h6 hchunk c).trans (List.map_id _)
  unfold shapeBytes messageBytes
  rw [carried_kLine, List.reverse_cons, List.reverse_reverse, List.map_append, hdata,
    List.flatten_append, split_flatten (by decide), List.map_singleton, frameOf_stamp t hend]
  exact List.append_nil data

end KLine

/-! ## 6. Between two messages -/

/-- What a protocol's channel says of the framing; the simulator opens every one. -/
theorem protocolChannel_base {p : UInt64} {ch : Fin 10} (h : opProtocolChannel p = some ch) :
    (opProtocolBase p = can ↔ ch = 5) ∧ (opProtocolBase p = iso15765 ↔ ch = 6) ∧
      ch.val ∈ supportedProtocols := by
  have hp : p ∈ [iso9141, iso9141Ch1, iso14230, iso14230Ch1, can, canCh1, iso15765, iso15765Ch1,
      iso9141Ch2, iso14230Ch2, iso9141Ch3] := by
    by_contra hno
    simp only [List.mem_cons, List.not_mem_nil, or_false, not_or] at hno
    obtain ⟨n1, n2, n3, n4, n5, n6, n7, n8, n9, n10, n11⟩ := hno
    unfold opProtocolChannel at h
    rw [if_neg (not_or.mpr ⟨n1, n2⟩), if_neg (not_or.mpr ⟨n3, n4⟩), if_neg (not_or.mpr ⟨n5, n6⟩),
      if_neg (not_or.mpr ⟨n7, n8⟩), if_neg n9, if_neg n10, if_neg n11] at h
    cases h
  simp only [List.mem_cons, List.not_mem_nil, or_false] at hp
  rcases hp with rfl | rfl | rfl | rfl | rfl | rfl | rfl | rfl | rfl | rfl | rfl <;>
    (obtain rfl := Option.some.inj h; decide)

/-- A channel between two messages: open for a protocol that is framed on it, with its buffer, no
    message half put together and no extended address announced. -/
structure Listening (ch : Fin 10) (d : OpDevice) : Prop where
  isOpen : (d.ch ch).isOpen = true
  protocol : opProtocolChannel (d.ch ch).protocol.toUInt64 = some ch
  buffer : (d.ch ch).rq.isSome = true
  idle : (d.ch ch).partialActive = false
  quiet : ch = 6 → (d.ch ch).extAnnounced = false

section Between

variable {ch : Fin 10} {d : OpDevice}

theorem Listening.iso (h : Listening ch d) : (d.ch ch).iso = decide (ch = 6) := by
  have hb := (protocolChannel_base h.protocol).2.1
  unfold OpChannel.iso OpChannel.base
  rw [Bool.eq_iff_iff, beq_iff_eq, decide_eq_true_iff]
  exact hb

theorem Listening.attached (h : Listening ch d) (h5 : ch ≠ 5) : Attached ch { dev := d } := by
  refine ⟨h.isOpen, fun e => h5 ((protocolChannel_base h.protocol).1.mp e), underway_idle h.idle ?_⟩
  intro hiso
  rw [h.iso] at hiso
  exact h.quiet (of_decide_eq_true hiso)

/-- After a message whole the channel is listening again. -/
theorem Listening.sent {lb : UInt8} {fs starts more : List SimFrame} {last : SimFrame}
    (h : Listening ch d) (h5 : ch ≠ 5) (hs : Shaped lb fs starts more last)
    (hlb : lb = 0 ∨ lb = stsLoopback) :
    ∃ bs, emit ch fs = some bs ∧ Listening ch ((framesIn bs).foldl absorbFrame d) := by
  obtain ⟨hst, hmore, hown, hlast⟩ := hs.replies hlb ch
  obtain ⟨bs, hemit, -, hframes⟩ := hs.emitted ch
  obtain ⟨c1, c2, c3, c4⟩ := message_idle (h.attached h5) rfl
    (by rw [List.length_map]; exact hs.one) hst hmore hown hlast
  rw [← hframes] at c1 c2 c3 c4
  rw [FrameRun.run_dev] at c3 c4
  have hopen := c1.isOpen
  have hu := c1.underway
  rw [c2, FrameRun.run_dev] at hu
  rw [FrameRun.run_dev] at hopen
  have hoff : (((framesIn bs).foldl absorbFrame d).ch ch).partialActive = false :=
    Bool.eq_false_iff.mpr fun e => hu.active.mp e rfl
  refine ⟨bs, hemit, hopen, ?_, ?_, hoff, fun h6 => hu.announced ?_ hoff⟩
  · rw [c3]
    exact h.protocol
  · rw [c4]
    exact h.buffer
  · have hiso := h.iso
    unfold OpChannel.iso OpChannel.base at hiso ⊢
    rw [c3, hiso]
    exact decide_eq_true h6

/-! ## 7. Channel by channel -/

/-- The loopback bit of an echo. -/
theorem loopback_bit (loopback : Bool) :
    (if loopback then stsLoopback else 0) = 0 ∨
      (if loopback then stsLoopback else 0) = stsLoopback := by
  cases loopback with
  | true => exact Or.inr rfl
  | false => exact Or.inl rfl

/-- Every channel but 3 and 4 is framed as CAN, an echo too. -/
theorem sendMessage_can {ch : Fin 10} (h : ch.val ∉ klineProtocols) (ts : Nat → UInt32)
    (payload : Bytes) (loopback : Bool) : sendMessage {} ts ch payload loopback =
      stamp ts (if loopback then stsLoopback else 0) 0
        (canFrames payload .measured .idEveryChunk) := by
  unfold sendMessage
  simp only
  rw [if_neg h]
  cases loopback <;> rfl

/-- The frames of a message are a shaped row. On channels 3, 4 and 6 they carry the message, on the
    others more than it. -/
theorem sendMessage_shaped {ch : Fin 10} (h5 : ch ≠ 5) {payload : Bytes}
    (hmin : (if ch = 6 then 5 else 1) ≤ payload.length) {loopback : Bool}
    (hecho : loopback = true → ch ≠ 6) (ts : Nat → UInt32) :
    ∃ starts more last, Shaped (if loopback then stsLoopback else 0)
      (sendMessage {} ts ch payload loopback) starts more last ∧
      (ch = 3 ∨ ch = 4 ∨ ch = 6 →
        shapeBytes ch (decide (ch = 6)) starts more last = payload ∧
        ((starts.map (frameOf ch)).map fun r => qhdrSize + r.bytes.length).sum ≤ qhdrSize + 4) ∧
      (¬(ch = 3 ∨ ch = 4 ∨ ch = 6) →
        payload.length < (shapeBytes ch (decide (ch = 6)) starts more last).length) := by
  have hlb := loopback_bit loopback
  by_cases hk : ch.val ∈ klineProtocols
  · have h34 : ch = 3 ∨ ch = 4 := by
      unfold klineProtocols at hk
      rw [List.mem_cons, List.mem_singleton] at hk
      rcases hk with e | e
      · exact Or.inl (Fin.ext e)
      · exact Or.inr (Fin.ext e)
    have h6 : ch ≠ 6 := by rcases h34 with rfl | rfl <;> decide
    have hsend : sendMessage {} ts ch payload loopback =
        sendKline {} (ts 0) payload (if loopback then stsLoopback else 0) := by
      unfold sendMessage
      simp only
      rw [if_pos hk]
    rw [hsend, decide_eq_false h6]
    refine ⟨_, _, _, sendKline_shaped (ts 0) payload _, fun _ => ⟨?_, ?_⟩, fun hno => ?_⟩
    · exact sendKline_bytes (ts 0) payload h5 h6 hlb
    · obtain ⟨-, -, -, -, hstart, -, -⟩ := status_bits hlb
      rw [List.map_singleton, List.map_singleton, List.sum_singleton,
        frameOf_stamp (ts 0) hstart]
      exact Nat.le_add_right _ _
    · exact absurd (h34.imp_right Or.inl) hno
  · rw [sendMessage_can hk]
    obtain ⟨starts, more, last, chunks, hs⟩ := canFrames_shape payload
    refine ⟨_, _, _, hs.stamped ts _, ?_, ?_⟩
    · intro h
      have h6 : ch = 6 := by
        rcases h with rfl | rfl | h6
        · exact absurd (by decide) hk
        · exact absurd (by decide) hk
        · exact h6
      subst h6
      have hoff : loopback = false := Bool.eq_false_iff.mpr fun e => hecho e rfl
      subst hoff
      have hid : (payload.take 4).length = 4 := by
        simp only [if_true] at hmin
        rw [List.length_take]
        omega
      exact ⟨hs.isoBytes ts hid, hs.announceRoom ts⟩
    · intro hno
      have h6 : ch ≠ 6 := fun e => hno (Or.inr (Or.inr e))
      rw [decide_eq_false h6]
      rw [if_neg h6] at hmin
      exact hs.grows ts _ h5 h6 hmin

/-- On the other channels the message is not delivered. -/
theorem not_delivers {ch : Fin 10} (h5 : ch ≠ 5) (hno : ¬(ch = 3 ∨ ch = 4 ∨ ch = 6))
    {payload : Bytes} (hmin : (if ch = 6 then 5 else 1) ≤ payload.length)
    (hmax : payload.length ≤ 4099)
    {loopback : Bool} (hecho : loopback = true → ch ≠ 6) (ts : Nat → UInt32) {d : OpDevice}
    (hl : Listening ch d) :
    ¬Delivers ch d payload (emit ch (sendMessage {} ts ch payload loopback)) := by
  intro hdel
  obtain ⟨starts, more, last, hs, -, hmore⟩ := sendMessage_shaped h5 hmin hecho ts
  obtain ⟨hthen, -⟩ := delivers_shaped hs (loopback_bit loopback) (hl.attached h5) payload
  rw [hl.iso] at hthen
  have hlong := hmore hno
  have e := congrArg List.length (hthen hdel)
  rw [List.length_take] at e
  have hcap : j2534MsgDataMax = 4128 := rfl
  omega

/-- **Where the simulator and the driver agree**: on a listening channel with room for a message,
    the message the simulator sends is the one message the driver delivers on channels 3, 4 and 6,
    and on no other. -/
theorem sendMessage_delivers {ch : Fin 10} (h5 : ch ≠ 5) {payload : Bytes}
    (hmin : (if ch = 6 then 5 else 1) ≤ payload.length) (hmax : payload.length ≤ 4099)
    {loopback : Bool} (hecho : loopback = true → ch ≠ 6) (ts : Nat → UInt32) {d : OpDevice}
    (hl : Listening ch d)
    (hroom : (d.ch ch).rqUsed + (qhdrSize + 4) + (qhdrSize + payload.length) ≤ opRxqBytes) :
    Delivers ch d payload (emit ch (sendMessage {} ts ch payload loopback)) ↔
      ch = 3 ∨ ch = 4 ∨ ch = 6 := by
  constructor
  · intro hdel
    by_contra hno
    exact not_delivers h5 hno hmin hmax hecho ts hl hdel
  · intro hgood
    obtain ⟨starts, more, last, hs, hsame, -⟩ := sendMessage_shaped h5 hmin hecho ts
    obtain ⟨-, hwhen⟩ := delivers_shaped hs (loopback_bit loopback) (hl.attached h5) payload
    obtain ⟨hbytes, hann⟩ := hsame hgood
    rw [hl.iso, hbytes] at hwhen
    have hcap : j2534MsgDataMax = 4128 := rfl
    have hmsg : messageRoom (decide (ch = 6)) (starts.map (frameOf ch)) (more.map (frameOf ch))
        (frameOf ch last) = ((starts.map (frameOf ch)).map fun r => qhdrSize + r.bytes.length).sum +
          (qhdrSize + payload.length) := by
      rw [← hbytes]
      rfl
    refine hwhen hl.buffer ?_ ?_
    · rw [hmsg]
      omega
    · rw [List.take_of_length_le (by omega)]

/-- A device with one channel open, between two messages, its queue empty. -/
def listeningDevice (i : Fin 10) (protocol : UInt32) : OpDevice :=
  { ch := fun j => if j = i then
      { isOpen := true, protocol := protocol, rq := some fun _ => 0 } else {} }

/-- A memory dump, 150 bytes behind the CAN id, that the simulator announces and cuts in three. -/
def dumpPayload : Bytes := [0, 0, 7, 0xE8] ++ (List.range 150).map UInt8.ofNat

/-- It is sent in four frames and delivered as one message; so is the echo of a K-line request. -/
theorem sendMessage_delivers_sample :
    (sendMessage {} (fun _ => 0) 6 dumpPayload false).length = 4 ∧
      Delivers 6 (listeningDevice 6 6) dumpPayload
        (emit 6 (sendMessage {} (fun _ => 0) 6 dumpPayload false)) ∧
      Delivers 3 (listeningDevice 3 3) [0x68, 0x6A, 0xF1, 0x01, 0x00]
        (emit 3 (sendMessage {} (fun _ => 0) 3 [0x68, 0x6A, 0xF1, 0x01, 0x00] true)) :=
  ⟨by decide +kernel, (sendMessage_delivers (by decide) (by decide +kernel) (by decide +kernel)
      (fun e => Bool.noConfusion e) (fun _ => 0) ⟨rfl, rfl, rfl, rfl, fun _ => rfl⟩
      (by decide +kernel)).mpr (by decide),
    (sendMessage_delivers (by decide) (by decide) (by decide) (fun _ => by decide) (fun _ => 0)
      ⟨rfl, rfl, rfl, rfl, fun e => absurd e (by decide)⟩ (by decide)).mpr (by decide)⟩

/-- **The simulator and the driver differ on channel 7**: one byte sent on ISO9141_CH2 comes with
    its timestamp in front. -/
theorem lLine_differs : ¬∀ (ch : Fin 10), ch.val ∈ supportedProtocols → ch ≠ 5 →
    ∀ (payload : Bytes), (if ch = 6 then 5 else 1) ≤ payload.length → payload.length ≤ 4099 →
    ∀ (loopback : Bool), (loopback = true → ch ≠ 6) → ∀ (ts : Nat → UInt32) (d : OpDevice),
    Listening ch d →
    (d.ch ch).rqUsed + (qhdrSize + 4) + (qhdrSize + payload.length) ≤ opRxqBytes →
    Delivers ch d payload (emit ch (sendMessage {} ts ch payload loopback)) := by
  intro hall
  have hl : Listening 7 (listeningDevice 7 0x9241) :=
    ⟨rfl, rfl, rfl, rfl, fun e => absurd e (by decide)⟩
  exact not_delivers (by decide) (by decide) (by decide) (by decide) (fun _ => by decide)
    (fun _ => 0) hl
    (hall 7 (by decide) (by decide) [0x81] (by decide) (by decide) false (fun _ => by decide)
      (fun _ => 0) _ hl (by decide))

end Between

end Openport.Simulator
