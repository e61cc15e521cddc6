/-
  File:      Openport/Car/Frames.lean
  Subject:   How the capture tool takes the cable's stream apart
             (`tools/car/car_capture.py`): `parse_frames`, and `Tp20._pump` with
             its buffer.

  A turn of the loop of `parse_frames` takes one entry off the front of what is
  left; the TAIL is what no turn takes. A text is kept as its bytes where the
  tool decodes it. CAN ids and timestamps are the numbers `struct.unpack` gives.
-/
import Openport.Lib.BigEndian
import Openport.Lib.Framing
import Openport.Proto.Record

namespace Openport.Car

open Lib Lib.Decimal Lib.Framing

/-! ## 1. Entries -/

/-- An entry of the list `parse_frames` returns. -/
inductive Entry where
  | frame (channel ln sts : UInt8) (ts : Nat) (data raw : Bytes)
  | short (bytes : Bytes)
  | line (text : Bytes)
  | tail (bytes : Bytes)
  deriving DecidableEq, Repr

/-- The entry of a frame, from what the buffer holds of its body: the status byte, and a timestamp
    and data where there are five bytes of it. -/
def frameEntry (channel ln : UInt8) (body : Bytes) : Entry :=
  match body with
  | [] => .short [0x61, 0x72, channel, ln]
  | sts :: raw =>
    if 5 ≤ body.length then .frame channel ln sts (BigEndian.value (raw.take 4)) (raw.drop 4) raw
    else .frame channel ln sts 0 [] raw

/-- A line, where its CR LF is there. -/
def lineStep (buf : Bytes) : Option (Entry × Bytes) :=
  match findCrLf buf with
  | some j => some (.line (buf.take j), buf.drop (j + 2))
  | none => none

/-- One turn of the loop of `parse_frames`. A slice that runs past the buffer is what there is. -/
def parseStep (buf : Bytes) : Option (Entry × Bytes) :=
  match buf with
  | 0x61 :: 0x72 :: channel :: ln :: rest =>
    if isDigit channel then
      some (frameEntry channel ln (rest.take ln.toNat), rest.drop ln.toNat)
    else lineStep buf
  | _ => lineStep buf

/-- `parse_frames`. -/
def parseFrames (buf : Bytes) : List Entry :=
  let r := drain parseStep buf
  r.1 ++ if r.2 = [] then [] else [.tail r.2]

/-! ## 2. The pump -/

/-- The CAN id and the data of an entry, where it is a frame of the channel with an id. -/
def Entry.pair (ch : Nat) : Entry → Option (Nat × Bytes)
  | .frame channel _ _ _ data _ =>
    if [channel] = decimal ch ∧ 4 ≤ data.length then some (BigEndian.value (data.take 4), data.drop 4)
    else none
  | _ => none

/-- What `_pump` keeps: the bytes of the last TAIL. -/
def restOf (es : List Entry) : Bytes :=
  es.foldl (fun rest e => match e with | .tail bytes => bytes | _ => rest) []

/-- `Tp20._pump`: from the bytes kept and the bytes drained, the frames handed on and the bytes
    kept. -/
def pump (ch : Nat) (buf drained : Bytes) : List (Nat × Bytes) × Bytes :=
  let es := parseFrames (buf ++ drained)
  (es.filterMap (Entry.pair ch), restOf es)

/-- What `_pump` returns over all its calls, the drains given. -/
def pumps (ch : Nat) : Bytes → List Bytes → List (Nat × Bytes)
  | _, [] => []
  | buf, d :: ds => (pump ch buf d).1 ++ pumps ch (pump ch buf d).2 ds

/-! ## 3. The turn of the loop -/

theorem lineStep_some {s rest : Bytes} {e : Entry} (h : lineStep s = some (e, rest)) :
    ∃ j, findCrLf s = some j ∧ e = .line (s.take j) ∧ rest = s.drop (j + 2) := by
  unfold lineStep at h
  split at h
  · rename_i j hj
    cases h
    exact ⟨j, hj, rfl, rfl⟩
  · cases h

/-- **What a turn takes**: a frame behind its header, or a line with its CR LF. -/
theorem parseStep_cases {s rest : Bytes} {e : Entry} (h : parseStep s = some (e, rest)) :
    (∃ channel ln body, isDigit channel = true ∧ body.length ≤ ln.toNat ∧
      s = 0x61 :: 0x72 :: channel :: ln :: (body ++ rest) ∧ e = frameEntry channel ln body) ∨
    ∃ j, findCrLf s = some j ∧ e = .line (s.take j) ∧ rest = s.drop (j + 2) := by
  unfold parseStep at h
  split at h
  · rename_i channel ln t
    split at h
    · rename_i hd
      cases h
      refine Or.inl ⟨channel, ln, t.take ln.toNat, hd, List.length_take_le _ _, ?_, rfl⟩
      rw [List.take_append_drop]
    · exact Or.inr (lineStep_some h)
  · exact Or.inr (lineStep_some h)

theorem parseStep_drops : Shrinks parseStep := by
  intro s e rest h
  rcases parseStep_cases h with ⟨_, _, body, -, -, rfl, -⟩ | ⟨j, hj, -, rfl⟩
  · simp only [List.length_cons, List.length_append]
    omega
  · have := findCrLf_lt hj
    rw [List.length_drop]
    omega

/-- No turn makes a TAIL. -/
theorem parseStep_no_tail {s rest bytes : Bytes} : parseStep s ≠ some (.tail bytes, rest) := by
  intro h
  rcases parseStep_cases h with ⟨channel, ln, body, -, -, -, e⟩ | ⟨j, -, e, -⟩
  · unfold frameEntry at e
    split at e
    · cases e
    · split at e <;> cases e
  · cases e

theorem drain_no_tail (s : Bytes) : ∀ e ∈ (drain parseStep s).1, ∀ bytes, e ≠ .tail bytes := by
  induction hn : s.length using Nat.strongRecOn generalizing s with
  | ind n ih =>
      cases h : parseStep s with
      | none =>
          rw [drain_wait parseStep_drops h]
          exact fun e he => (nomatch he)
      | some r =>
          rw [drain_item parseStep_drops h]
          intro e he bytes hb
          rcases List.mem_cons.mp he with rfl | he
          · exact parseStep_no_tail (by rw [h, ← hb])
          · exact ih r.2.length (hn ▸ parseStep_drops s r.1 r.2 h) r.2 rfl e he bytes hb

theorem restOf_no_tail {es : List Entry} (h : ∀ e ∈ es, ∀ bytes, e ≠ .tail bytes) (more : List Entry) :
    restOf (es ++ more) = restOf more := by
  unfold restOf
  rw [List.foldl_append]
  congr 1
  induction es with
  | nil => rfl
  | cons e es ih =>
      have he := h e List.mem_cons_self
      rw [List.foldl_cons]
      cases e with
      | tail bytes => exact absurd rfl (he bytes)
      | _ => exact ih fun x hx => h x (List.mem_cons_of_mem _ hx)

/-- **`_pump` is the turns of the loop**: it hands on the channel's frames among the entries and
    keeps what no turn takes. -/
theorem pump_eq (ch : Nat) (buf drained : Bytes) : pump ch buf drained =
    ((drain parseStep (buf ++ drained)).1.filterMap (Entry.pair ch),
      (drain parseStep (buf ++ drained)).2) := by
  unfold pump parseFrames
  simp only
  rw [restOf_no_tail (drain_no_tail _), List.filterMap_append]
  by_cases h : (drain parseStep (buf ++ drained)).2 = []
  · rw [if_pos h, h]
    simp [restOf]
  · rw [if_neg h]
    simp [restOf, Entry.pair]

end Openport.Car
