/-
  File:      Openport/Simulator/Frames.lean
  Subject:   How the simulated cable frames a message
             (`tests/sim/openport_sim.py`): `_split`, `can_frames`, `_raw_frame`,
             `frame`, `send_message`, `_send_kline`.

  The faults of the simulator are off and its log is left out. Its clock is an
  argument, one reading a frame. An echo is `send_message` with `loopback` on
  every channel but 5 and 6.
-/
import Openport.Lib.Decimal
import Openport.Proto.Reply

namespace Openport.Simulator

open Lib.Decimal

/-! ## 1. Constants and settings -/

/-- `SUPPORTED_PROTOCOLS`. -/
def supportedProtocols : List Nat := [3, 4, 5, 6, 7, 8, 9]

/-- `KLINE_PROTOCOLS`. -/
def klineProtocols : List Nat := [3, 4]

def stsStart : UInt8 := 0x80
def stsEnd : UInt8 := 0x40
def stsLoopback : UInt8 := 0x20

/-- `MAX_FRAME_PAYLOAD`. -/
def maxFramePayload : Nat := 250

/-- `RX_FRAMINGS`, and the framing `send_message` gives a `data_only` echo. -/
inductive RxFraming where
  | measured | old | startEndCombined | noAnnounce
  deriving DecidableEq, Repr

/-- `CHUNKINGS`. -/
inductive Chunking where
  | idFirstOnly | idEveryChunk | old
  deriving DecidableEq, Repr

/-- `KLINE_LAYOUTS`. -/
inductive KlineLayout where
  | asymmetric | uniform
  deriving DecidableEq, Repr

/-- `ECHO_SHAPES`. -/
inductive EchoShape where
  | mirrorRx | dataOnly | combined
  deriving DecidableEq, Repr

/-- `Wire`, the part of it that frames messages. -/
structure Wire where
  rxFraming : RxFraming := .measured
  chunking : Chunking := .idEveryChunk
  klineLayout : KlineLayout := .asymmetric
  echoShape : EchoShape := .mirrorRx

/-! ## 2. The frames of a message -/

/-- The slices of `_split`; every slice takes at least one byte off `data`. -/
def splitFrom (n : Nat) : Nat → Bytes → List Bytes
  | 0, _ => []
  | fuel + 1, data => if data = [] then [] else data.take n :: splitFrom n fuel (data.drop n)

/-- `_split`: the slices of `n` bytes, one empty slice for no data. -/
def split (data : Bytes) (n : Nat) : List Bytes :=
  if data = [] then [[]] else splitFrom n data.length data

/-- A frame before it is on the wire: its status byte, and what follows it. -/
abbrev SimFrame := UInt8 × Bytes

/-- `can_frames`. -/
def canFrames (payload : Bytes) (framing : RxFraming) (chunking : Chunking) : List SimFrame :=
  let canId := payload.take 4
  let body := payload.drop 4
  if framing = .measured ∧ chunking = .idEveryChunk ∧ 7 < body.length then
    let chunks := if 69 < body.length then body.take 69 :: split (body.drop 69) 70 else [body]
    (stsStart, canId) :: (chunks.dropLast.map fun c => (0x00, canId ++ c)) ++
      [(stsEnd, canId ++ chunks.getLastD [])]
  else if payload.length ≤ maxFramePayload then
    let segmented := 7 < body.length
    match framing with
    | .measured => (if segmented then [(stsStart, canId)] else []) ++ [(stsEnd, payload)]
    | .old => if segmented then [(stsStart, payload), (stsEnd, [])] else [(stsEnd, payload)]
    | .startEndCombined => [(stsStart ||| stsEnd, payload)]
    | .noAnnounce => [(stsEnd, payload)]
  else if (framing = .measured ∨ framing = .noAnnounce) ∧ chunking ≠ .old then
    let chunks :=
      if chunking = .idFirstOnly then split payload maxFramePayload
      else (split body (maxFramePayload - 4)).map fun c => canId ++ c
    (if framing = .measured then [(stsStart, canId)] else []) ++
      (chunks.dropLast.map fun c => (0x00, c)) ++ [(stsEnd, chunks.getLastD [])]
  else
    let chunks := split body (maxFramePayload - 4)
    (stsStart, canId ++ chunks.headD []) ::
      ((chunks.drop 1).dropLast.map fun c => (0x00, c)) ++ [(stsEnd, chunks.getLastD [])]

/-- `struct.pack(">I", ts)`. -/
def be32 (ts : UInt32) : Bytes :=
  [(ts >>> 24).toUInt8, (ts >>> 16).toUInt8, (ts >>> 8).toUInt8, ts.toUInt8]

/-- `_send_kline`. -/
def sendKline (w : Wire) (ts : UInt32) (data : Bytes) (lb : UInt8) : List SimFrame :=
  let uniform := w.klineLayout = .uniform
  (stsStart ||| lb, be32 ts) ::
    ((split data (if uniform then maxFramePayload else 254)).map fun chunk =>
      (lb, if uniform then be32 ts ++ chunk else chunk)) ++
    [(stsEnd ||| lb, be32 ts)]

/-- The calls of `frame` in `send_message`: each frame gets the loopback bit and the time. -/
def stamp (ts : Nat → UInt32) (lb : UInt8) : Nat → List SimFrame → List SimFrame
  | _, [] => []
  | k, f :: fs => (f.1 ||| lb, be32 (ts k) ++ f.2) :: stamp ts lb (k + 1) fs

/-- `send_message`, as the frames it hands to `_raw_frame`. -/
def sendMessage (w : Wire) (ts : Nat → UInt32) (ch : Fin 10) (payload : Bytes) (loopback : Bool) :
    List SimFrame :=
  let lb := if loopback then stsLoopback else 0
  if ch.val ∈ klineProtocols then sendKline w (ts 0) payload lb
  else
    let framing :=
      if loopback then
        match w.echoShape with
        | .mirrorRx => w.rxFraming
        | .dataOnly => .noAnnounce
        | .combined => .startEndCombined
      else w.rxFraming
    stamp ts lb 0 (canFrames payload framing w.chunking)

/-! ## 3. Slices -/

theorem splitFrom_flatten {n : Nat} (hn : 0 < n) : ∀ (fuel : Nat) (data : Bytes),
    data.length ≤ fuel → (splitFrom n fuel data).flatten = data
  | 0, data, h => (List.length_eq_zero_iff.mp (Nat.le_zero.mp h)).symm
  | fuel + 1, data, h => by
      unfold splitFrom
      by_cases hd : data = []
      · rw [if_pos hd, hd]
        rfl
      · have hpos : 0 < data.length := List.length_pos_iff.mpr hd
        rw [if_neg hd, List.flatten_cons,
          splitFrom_flatten hn fuel _ (by rw [List.length_drop]; omega), List.take_append_drop]

/-- **The slices put together are the data.** -/
theorem split_flatten {n : Nat} (hn : 0 < n) (data : Bytes) : (split data n).flatten = data := by
  unfold split
  by_cases hd : data = []
  · rw [if_pos hd, hd]
    rfl
  · rw [if_neg hd]
    exact splitFrom_flatten hn _ _ (Nat.le_refl _)

theorem mem_splitFrom {n : Nat} {c : Bytes} : ∀ (fuel : Nat) (data : Bytes),
    c ∈ splitFrom n fuel data → c.length ≤ n
  | 0, _, h => absurd h List.not_mem_nil
  | fuel + 1, data, h => by
      unfold splitFrom at h
      by_cases hd : data = []
      · rw [if_pos hd] at h
        exact absurd h List.not_mem_nil
      · rw [if_neg hd] at h
        rcases List.mem_cons.mp h with rfl | h
        · exact List.length_take_le _ _
        · exact mem_splitFrom fuel _ h

/-- No slice is longer than asked for. -/
theorem mem_split {n : Nat} {data c : Bytes} (h : c ∈ split data n) : c.length ≤ n := by
  unfold split at h
  by_cases hd : data = []
  · rw [if_pos hd] at h
    rw [List.mem_singleton.mp h]
    exact Nat.zero_le n
  · rw [if_neg hd] at h
    exact mem_splitFrom _ _ h

/-- No slice of data that is there is empty. -/
theorem splitFrom_ne_nil {n : Nat} (hn : 0 < n) {c : Bytes} : ∀ (fuel : Nat) (data : Bytes),
    c ∈ splitFrom n fuel data → c ≠ []
  | 0, _, h => absurd h List.not_mem_nil
  | fuel + 1, data, h => by
      unfold splitFrom at h
      by_cases hd : data = []
      · rw [if_pos hd] at h
        exact absurd h List.not_mem_nil
      · rw [if_neg hd] at h
        rcases List.mem_cons.mp h with rfl | h
        · intro e
          rcases List.take_eq_nil_iff.mp e with hz | hz
          · omega
          · exact hd hz
        · exact splitFrom_ne_nil hn fuel _ h

/-- The first slice of data that is there, and the slices of the rest. -/
theorem split_cons {n : Nat} (hn : 0 < n) {data : Bytes} (hd : data ≠ []) :
    ∃ more, split data n = data.take n :: more ∧ ∀ c ∈ data.take n :: more, c ≠ [] := by
  have hpos : 0 < data.length := List.length_pos_iff.mpr hd
  have e : split data n = data.take n :: splitFrom n (data.length - 1) (data.drop n) := by
    unfold split
    rw [if_neg hd]
    obtain ⟨k, hk⟩ : ∃ k, data.length = k + 1 := ⟨data.length - 1, by omega⟩
    rw [hk]
    show (if data = [] then _ else _) = _
    rw [if_neg hd]
    rfl
  refine ⟨_, e, ?_⟩
  intro c hc
  rw [← e] at hc
  unfold split at hc
  rw [if_neg hd] at hc
  exact splitFrom_ne_nil hn _ _ hc

/-! ## 4. On the wire -/

/-- `_raw_frame`: the bytes of a frame, `none` where it raises because the length does not fit its
    byte. -/
def rawFrame (ch : Fin 10) (f : SimFrame) : Option Bytes :=
  let body := f.1 :: f.2
  if 255 < body.length then none
  else some (0x61 :: 0x72 :: (decimal ch.val ++ UInt8.ofNat body.length :: body))

/-- The bytes of a row of frames. -/
def emit (ch : Fin 10) (fs : List SimFrame) : Option Bytes :=
  (fs.mapM (rawFrame ch)).map List.flatten

end Openport.Simulator
