/-
  File:      Openport/Simulator/Emitting.lean
  Subject:   What the simulated cable puts out, and that it puts out nothing else.

  `inner` is all of the state that putting something out leaves alone. Without
  faults the output is records of `Openport/Proto/Record.lean`: `Framed` says that
  only frames went out, `reply_puts` that a reply is one record. No frame is ever
  too long for its length byte, whatever the settings (`mem_sendMessage`).
-/
import Openport.Device.Stream
import Openport.Simulator.Commands
import Openport.Simulator.Layout

namespace Openport.Simulator

open Lib Lib.Decimal

/-! ## 1. The rest of the state -/

/-- The state without what putting something out changes. -/
def Sim.inner (s : Sim) : Sim := { s with out := [], ticks := 0, rng := 0, cmdCount := 0 }

/-- No fault spoils the output; a bus without a second node does not. -/
structure Setup.Plain (e : Setup) : Prop where
  desync : e.faults.desyncAfter = 0
  drop : e.faults.dropReplyEvery = 0
  truncate : e.faults.truncateFrames = false
  disconnect : e.faults.disconnectAfter = 0
  garbage : e.faults.garbageBytes = 0

/-- A frame. -/
def isFrame : Record → Bool
  | .frame _ _ _ => true
  | _ => false

/-- The records `rs` went out. -/
def Puts (s s' : Sim) (rs : List WireRecord) : Prop :=
  s'.out.flatten = s.out.flatten ++ stream rs

/-- Nothing but frames went out. -/
structure Framed (e : Setup) (s s' : Sim) : Prop where
  inner : s'.inner = s.inner
  frames : e.Plain → ∃ rs : List WireRecord, (∀ r ∈ rs, isFrame r.val = true) ∧ Puts s s' rs

theorem stream_append (rs qs : List WireRecord) : stream (rs ++ qs) = stream rs ++ stream qs := by
  unfold stream
  rw [List.map_append, List.flatten_append]

theorem Puts.refl (s : Sim) : Puts s s [] := (List.append_nil _).symm

theorem Puts.trans {s s' s'' : Sim} {rs qs : List WireRecord} (h : Puts s s' rs)
    (h' : Puts s' s'' qs) : Puts s s'' (rs ++ qs) := by
  unfold Puts at *
  rw [h', h, stream_append, List.append_assoc]

theorem Framed.refl (e : Setup) (s : Sim) : Framed e s s :=
  ⟨rfl, fun _ => ⟨[], fun _ h => absurd h List.not_mem_nil, Puts.refl s⟩⟩

theorem Framed.trans {e : Setup} {s s' s'' : Sim} (h : Framed e s s') (h' : Framed e s' s'') :
    Framed e s s'' := by
  refine ⟨h'.inner.trans h.inner, fun hp => ?_⟩
  obtain ⟨rs, hr, hputs⟩ := h.frames hp
  obtain ⟨qs, hq, hputs'⟩ := h'.frames hp
  refine ⟨rs ++ qs, ?_, hputs.trans hputs'⟩
  intro r hmem
  rcases List.mem_append.mp hmem with hmem | hmem
  · exact hr r hmem
  · exact hq r hmem

/-! ## 2. Replies -/

theorem reply_inner (e : Setup) (s : Sim) (data : Bytes) : (s.reply e data).inner = s.inner := by
  unfold Sim.reply
  simp only
  by_cases h : e.faults.dropReplyEvery ≠ 0
  · rw [if_pos h]
    split
    · rfl
    · split <;> rfl
  · rw [if_neg h, if_neg fun e => h e.1]
    split <;> rfl

theorem ok_inner (e : Setup) (s : Sim) : (s.ok e).inner = s.inner := reply_inner e s _

theorem err_inner (e : Setup) (s : Sim) (code : Nat) : (s.err e code).inner = s.inner :=
  reply_inner e s _

/-- **A reply that is a record goes out as that record.** -/
theorem reply_puts {e : Setup} (hp : e.Plain) (s : Sim) (r : WireRecord) :
    Puts s (s.reply e r.val.wire) [r] := by
  have hreply : s.reply e r.val.wire = s.emit r.val.wire := by
    unfold Sim.reply
    simp only [hp.drop, hp.garbage, ne_eq, not_true_eq_false, false_and, if_false]
  unfold Puts stream
  rw [hreply]
  show (s.out ++ [r.val.wire]).flatten = _
  rw [List.flatten_append]
  rfl

/-! ## 3. Frames -/

/-- `_raw_frame`, on any channel: it raises only at a body that does not fit its length byte. -/
theorem rawFrame_some (e : Setup) (s : Sim) (ch : Nat) {f : SimFrame} (h : f.2.length ≤ 254) :
    ∃ s', s.rawFrame e ch f = some s' ∧ s'.inner = s.inner := by
  have hlen : ¬255 < (f.1 :: f.2).length := by
    rw [List.length_cons]
    omega
  unfold Sim.rawFrame frameBytes
  simp only
  rw [if_neg hlen]
  exact ⟨_, rfl, rfl⟩

/-- On a channel of the cable it is a frame record. -/
theorem rawFrame_framed (e : Setup) (s : Sim) (i : Fin 10) {f : SimFrame} (h : f.2.length ≤ 254) :
    ∃ s', s.rawFrame e i.val f = some s' ∧ Framed e s s' := by
  obtain ⟨s', hs, hinner⟩ := rawFrame_some e s i.val h
  refine ⟨s', hs, hinner, fun hp => ?_⟩
  refine ⟨[⟨_, frame_wellFormed i f.1 h⟩], fun r hr => ?_, ?_⟩
  · rw [List.mem_singleton.mp hr]
    rfl
  · have hbytes : frameBytes i.val f = some (Record.frame i f.1 f.2).wire := rawFrame_wire h
    unfold Sim.rawFrame at hs
    rw [hbytes, hp.truncate] at hs
    rw [← Option.some.inj hs]
    unfold Puts stream
    show (s.out ++ [(Record.frame i f.1 f.2).wire]).flatten = _
    rw [List.flatten_append]
    rfl

/-- **A row of frames that fit goes out as frames.** -/
theorem rawFrames_framed (e : Setup) (i : Fin 10) {fs : List SimFrame} :
    ∀ s : Sim, (∀ f ∈ fs, f.2.length ≤ 254) →
      ∃ s', s.rawFrames e i.val fs = some s' ∧ Framed e s s' := by
  induction fs with
  | nil => exact fun s _ => ⟨s, rfl, Framed.refl e s⟩
  | cons f fs ih =>
      intro s h
      obtain ⟨s1, h1, hf1⟩ := rawFrame_framed e s i (h f List.mem_cons_self)
      obtain ⟨s2, h2, hf2⟩ := ih s1 fun g hg => h g (List.mem_cons_of_mem f hg)
      refine ⟨s2, ?_, hf1.trans hf2⟩
      show (s.rawFrame e i.val f).bind (fun s => fs.foldlM (fun s f => s.rawFrame e i.val f) s) = _
      rw [h1]
      exact h2

/-- The clock is not part of what went out. -/
theorem Framed.ticked {e : Setup} {s s' : Sim} {n : Nat} (h : Framed e { s with ticks := n } s') :
    Framed e s s' := ⟨h.inner, h.frames⟩

theorem be32_length (ts : UInt32) : (be32 ts).length = 4 := rfl

theorem frame_some (e : Setup) (s : Sim) (ch : Nat) (status : UInt8) {payload : Bytes}
    (h : payload.length ≤ 250) : ∃ s', s.frame e ch status payload = some s' ∧
      s'.inner = s.inner := by
  have hlen : (be32 (s.ts e).1 ++ payload).length ≤ 254 := by
    rw [List.length_append, be32_length]
    omega
  obtain ⟨s', hs, hinner⟩ := rawFrame_some e (s.ts e).2 ch (f := (status, _)) hlen
  exact ⟨s', hs, hinner⟩

theorem frame_framed (e : Setup) (s : Sim) (i : Fin 10) (status : UInt8) {payload : Bytes}
    (h : payload.length ≤ 250) : ∃ s', s.frame e i.val status payload = some s' ∧
      Framed e s s' := by
  have hlen : (be32 (s.ts e).1 ++ payload).length ≤ 254 := by
    rw [List.length_append, be32_length]
    omega
  obtain ⟨s', hs, hf⟩ := rawFrame_framed e (s.ts e).2 i (f := (status, _)) hlen
  exact ⟨s', hs, hf.ticked⟩

/-! ## 4. Messages -/

theorem headD_length {cs : List Bytes} {n : Nat} (h : ∀ c ∈ cs, c.length ≤ n) :
    (cs.headD []).length ≤ n := by
  cases cs with
  | nil => exact Nat.zero_le n
  | cons c cs => exact h c List.mem_cons_self

theorem getLastD_length {cs : List Bytes} {n : Nat} (h : ∀ c ∈ cs, c.length ≤ n) :
    (cs.getLastD []).length ≤ n := by
  rcases List.eq_nil_or_concat cs with rfl | ⟨init, c, rfl⟩
  · exact Nat.zero_le n
  · rw [List.concat_eq_append] at h ⊢
    rw [List.getLastD_concat]
    exact h c (List.mem_append_right init (List.mem_singleton_self c))

/-- **No framing model makes a frame of more than `MAX_FRAME_PAYLOAD` bytes.** -/
theorem mem_canFrames {payload : Bytes} {framing : RxFraming} {chunking : Chunking} {f : SimFrame}
    (h : f ∈ canFrames payload framing chunking) : f.2.length ≤ maxFramePayload := by
  have hid : (payload.take 4).length ≤ 4 := List.length_take_le 4 payload
  have h250 : maxFramePayload = 250 := rfl
  unfold canFrames at h
  simp only at h
  split at h
  · -- chunks as the cable was measured to send them
    have hc : ∀ c ∈ (if 69 < (payload.drop 4).length then
        (payload.drop 4).take 69 :: split ((payload.drop 4).drop 69) 70 else [payload.drop 4]),
        c.length ≤ 70 := fun c hc => mem_chunksOf hc
    generalize (if 69 < (payload.drop 4).length then _ else _ : List Bytes) = chunks at h hc
    rcases List.mem_append.mp h with h | h
    · rcases List.mem_cons.mp h with rfl | h
      · show (payload.take 4).length ≤ _
        omega
      · obtain ⟨c, hcm, rfl⟩ := List.mem_map.mp h
        have := hc c (List.mem_of_mem_dropLast hcm)
        show (payload.take 4 ++ c).length ≤ _
        rw [List.length_append]
        omega
    · rw [List.mem_singleton.mp h]
      have := getLastD_length hc
      show (payload.take 4 ++ chunks.getLastD []).length ≤ _
      rw [List.length_append]
      omega
  · split at h
    · -- one frame, or an announcement and one
      rename_i hshort
      cases framing with
      | measured =>
          simp only at h
          rcases List.mem_append.mp h with h | h
          · split at h
            · rw [List.mem_singleton.mp h]
              show (payload.take 4).length ≤ _
              omega
            · exact absurd h List.not_mem_nil
          · rw [List.mem_singleton.mp h]
            exact hshort
      | old =>
          simp only at h
          split at h
          · rcases List.mem_cons.mp h with rfl | h
            · exact hshort
            · rw [List.mem_singleton.mp h]
              exact Nat.zero_le _
          · rw [List.mem_singleton.mp h]
            exact hshort
      | startEndCombined =>
          rw [List.mem_singleton.mp h]
          exact hshort
      | noAnnounce =>
          rw [List.mem_singleton.mp h]
          exact hshort
    · split at h
      · -- an announcement and chunks
        have hc : ∀ c ∈ (if chunking = .idFirstOnly then split payload maxFramePayload
            else (split (payload.drop 4) (maxFramePayload - 4)).map fun c => payload.take 4 ++ c),
            c.length ≤ maxFramePayload := by
          intro c hc
          split at hc
          · exact mem_split hc
          · obtain ⟨b, hb, rfl⟩ := List.mem_map.mp hc
            have := mem_split hb
            rw [List.length_append]
            omega
        generalize (if chunking = .idFirstOnly then _ else _ : List Bytes) = chunks at h hc
        rcases List.mem_append.mp h with h | h
        · rcases List.mem_append.mp h with h | h
          · split at h
            · rw [List.mem_singleton.mp h]
              show (payload.take 4).length ≤ _
              omega
            · exact absurd h List.not_mem_nil
          · obtain ⟨c, hcm, rfl⟩ := List.mem_map.mp h
            exact hc c (List.mem_of_mem_dropLast hcm)
        · rw [List.mem_singleton.mp h]
          exact getLastD_length hc
      · -- the id in the first frame only
        have hc : ∀ c ∈ split (payload.drop 4) (maxFramePayload - 4), c.length ≤ 246 :=
          fun c hc => mem_split hc
        generalize split (payload.drop 4) (maxFramePayload - 4) = chunks at h hc
        rcases List.mem_append.mp h with h | h
        · rcases List.mem_cons.mp h with rfl | h
          · have := headD_length hc
            show (payload.take 4 ++ chunks.headD []).length ≤ _
            rw [List.length_append]
            omega
          · obtain ⟨c, hcm, rfl⟩ := List.mem_map.mp h
            have := hc c (List.mem_of_mem_drop (List.mem_of_mem_dropLast hcm))
            show c.length ≤ _
            omega
        · rw [List.mem_singleton.mp h]
          have := getLastD_length hc
          show (chunks.getLastD []).length ≤ _
          omega

theorem mem_sendKline {w : Wire} {ts : UInt32} {data : Bytes} {lb : UInt8} {f : SimFrame}
    (h : f ∈ sendKline w ts data lb) : f.2.length ≤ 254 := by
  unfold sendKline at h
  rcases List.mem_append.mp h with h | h
  · rcases List.mem_cons.mp h with rfl | h
    · exact Nat.le_of_ble_eq_true rfl
    · obtain ⟨c, hc, rfl⟩ := List.mem_map.mp h
      have hlen := mem_split hc
      have h250 : maxFramePayload = 250 := rfl
      by_cases hu : w.klineLayout = .uniform
      · simp only [if_pos hu] at hlen ⊢
        rw [List.length_append, be32_length]
        omega
      · simp only [if_neg hu] at hlen ⊢
        exact hlen
  · rw [List.mem_singleton.mp h]
    exact Nat.le_of_ble_eq_true rfl

/-- **Every frame of a message fits its length byte**, under every setting, echoed or not. -/
theorem mem_sendMessage {w : Wire} {ts : Nat → UInt32} {i : Fin 10} {payload : Bytes}
    {loopback : Bool} {f : SimFrame} (h : f ∈ sendMessage w ts i payload loopback) :
    f.2.length ≤ 254 := by
  unfold sendMessage at h
  simp only at h
  split at h
  · exact mem_sendKline h
  · obtain ⟨g, hg, t, rfl⟩ := mem_stamp h
    have h250 : maxFramePayload = 250 := rfl
    have := mem_canFrames hg
    show (be32 t ++ g.2).length ≤ 254
    rw [List.length_append, be32_length]
    omega

theorem sendMessage_framed (e : Setup) (s : Sim) (i : Fin 10) (payload : Bytes)
    (loopback : Bool) : ∃ s', s.sendMessage e i payload loopback = some s' ∧ Framed e s s' := by
  unfold Sim.sendMessage
  simp only
  obtain ⟨s', hs, hf⟩ := rawFrames_framed e i _ fun f hf => mem_sendMessage hf
  exact ⟨s', hs, hf.ticked⟩

theorem loopbackEcho_framed (e : Setup) (s : Sim) (i : Fin 10) (payload : Bytes) :
    ∃ s', s.loopbackEcho e i payload = some s' ∧ Framed e s s' := by
  unfold Sim.loopbackEcho
  split
  · exact frame_framed e s 5 stsLoopback (by decide)
  · exact sendMessage_framed e s i payload true

theorem echoed_framed (e : Setup) (s : Sim) (i : Fin 10) (c : Channel) (payload : Bytes) :
    ∃ s', s.echoed e i c payload = some s' ∧ Framed e s s' := by
  unfold Sim.echoed
  split
  · exact loopbackEcho_framed e s i payload
  · exact ⟨s, rfl, Framed.refl e s⟩

/-- The indication of a transmit: it goes out on whatever channel number the command named. -/
theorem txIndication_some (e : Setup) (s : Sim) (ch : Nat) (payload : Bytes) :
    ∃ s', s.txIndication e ch payload = some s' ∧ s'.inner = s.inner := by
  unfold Sim.txIndication
  split
  · exact frame_some e s ch stsTxInd (by decide)
  · exact frame_some e s ch stsTxInd (Nat.le_trans (List.length_take_le 4 payload) (by decide))

theorem txIndication_framed (e : Setup) (s : Sim) (i : Fin 10) (payload : Bytes) :
    ∃ s', s.txIndication e i.val payload = some s' ∧ Framed e s s' := by
  unfold Sim.txIndication
  split
  · exact frame_framed e s i stsTxInd (by decide)
  · exact frame_framed e s i stsTxInd (Nat.le_trans (List.length_take_le 4 payload) (by decide))

theorem indicated_framed (e : Setup) (s : Sim) (i : Fin 10) (payload : Bytes) :
    ∃ s', s.indicated e i payload = some s' ∧ Framed e s s' := by
  unfold Sim.indicated
  split
  · exact txIndication_framed e s i payload
  · exact ⟨s, rfl, Framed.refl e s⟩

end Openport.Simulator
