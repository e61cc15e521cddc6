/-
  File:      Openport/Car/Tp20.lean
  Subject:   The tester's end of a TP2.0 channel without its port
             (`tools/car/car_capture.py`): `tp20_split`, `tp20_parse_setup`, and
             the receive loop of `Tp20.request`.

  What the loop sends is returned beside its outcome. The drains its pumps make
  are given to it, so it ends where they do; its time-out, put off by every
  responsePending, is that end. A CAN id is the number `struct.unpack` gives.
-/
import Openport.Lib.Segments
import Openport.Simulator.Tp20

namespace Openport.Car

open Lib Lib.Segments Simulator

/-! ## 1. Messages and setup replies -/

/-- `TP20_PARAMS`: block size 15, T1 100 ms, T3 10 ms. -/
def tp20Params : Bytes := [0xa0, 0x0f, 0x8a, 0xff, 0x4a, 0xff]

/-- `TP20_PARAMS_RESP`, the answer to a channel test. -/
def tp20ParamsResp : Bytes := [0xa1, 0x0f, 0x8a, 0xff, 0x4a, 0xff]

/-- `tp20_split`, `none` where `struct.pack` has no two bytes for the length. -/
def tp20Split (payload : Bytes) : Option (List (UInt8 × Bytes)) :=
  if 0xffff < payload.length then none else some (tp20Chunks payload)

/-- `tp20_parse_setup`: the ids to receive on and to transmit to. Each is a low byte and a prefix
    byte whose high nibble flags it invalid. -/
def tp20ParseSetup (d : Bytes) : Option (Nat × Nat) :=
  match d with
  | _ :: op :: rxLow :: rxHigh :: txLow :: txHigh :: _ :: _ =>
    if op ≠ 0xd0 then none
    else if rxHigh &&& 0xf0 ≠ 0 ∨ txHigh &&& 0xf0 ≠ 0 then none
    else some ((rxHigh &&& 0x0f).toNat * 256 + rxLow.toNat,
      (txHigh &&& 0x0f).toNat * 256 + txLow.toNat)
  | _ => none

/-! ## 2. The receive loop -/

/-- The length in front of an answer; the top bit of its high byte is set on responsePending. -/
def maskedLength (b0 b1 : UInt8) : Nat := (b0 &&& 0x7f).toNat * 256 + b1.toNat

/-- A message the loop takes for responsePending: the module asks for more time. -/
def responsePending (msg : Bytes) : Bool :=
  decide (3 ≤ msg.length) && msg.getD 0 0 == 0x7f && msg.getD 2 0 == 0x78

/-- What the loop does behind a frame: goes on with `want` and `acc`, returns None because the
    module closed the channel, or returns the answer. -/
inductive Turn where
  | listen (r : Gathered UInt8)
  | closed
  | answer (msg : Bytes)
  deriving DecidableEq, Repr

/-- One frame in the loop of `request`, with what it sends. -/
def receiveFrame (rxId : Nat) (r : Gathered UInt8) (f : Nat × Bytes) : List Bytes × Turn :=
  match f.2 with
  | [] => ([], .listen r)
  | d0 :: part =>
    if f.1 ≠ rxId then ([], .listen r)
    else
      let op := d0 >>> 4
      let seq := d0 &&& 0x0f
      if op = 0xa then
        if d0 = 0xa8 then ([], .closed)
        else (if d0 = 0xa3 then [tp20ParamsResp] else [], .listen r)
      else if op = 0xb ∨ op = 0x9 then ([], .listen r)
      else if 3 < op then ([], .listen r)
      else if r.want = none ∧ part.length < 2 then ([], .listen r)
      else
        -- the length off the first part, `acc += part`
        let r := r.add maskedLength part
        let ack := if op = 0 ∨ op = 1 then [[0xb0 ||| ((seq + 1) &&& 0x0f)]] else []
        match r.full with
        | none => (ack, .listen r)
        | some msg => if responsePending msg then (ack, .listen {}) else (ack, .answer msg)

/-- Where the loop still listens it goes on; what it sends adds up. -/
def goOn (t : List Bytes × Turn) (next : Gathered UInt8 → List Bytes × Turn) : List Bytes × Turn :=
  match t with
  | (sent, .listen r) => (sent ++ (next r).1, (next r).2)
  | done => done

/-- The frames of one pump. -/
def receiveFrames (rxId : Nat) (r : Gathered UInt8) : List (Nat × Bytes) → List Bytes × Turn
  | [] => ([], .listen r)
  | f :: fs => goOn (receiveFrame rxId r f) fun r => receiveFrames rxId r fs

/-- The loop over its pumps. It times out where it still listens behind the last of them. -/
def receivePumps (rxId : Nat) (r : Gathered UInt8) : List (List (Nat × Bytes)) → List Bytes × Turn
  | [] => ([], .listen r)
  | p :: ps => goOn (receiveFrames rxId r p) fun r => receivePumps rxId r ps

/-! ## 3. The loop and its pumps -/

theorem goOn_listen (r : Gathered UInt8) (next : Gathered UInt8 → List Bytes × Turn) :
    goOn ([], .listen r) next = next r := rfl

theorem goOn_goOn (t : List Bytes × Turn) (next next' : Gathered UInt8 → List Bytes × Turn) :
    goOn (goOn t next) next' = goOn t fun r => goOn (next r) next' := by
  obtain ⟨sent, turn⟩ := t
  cases turn with
  | closed => rfl
  | answer msg => rfl
  | listen r =>
      show goOn (sent ++ (next r).1, (next r).2) next' =
        (sent ++ (goOn (next r) next').1, (goOn (next r) next').2)
      generalize next r = more
      obtain ⟨sent', turn'⟩ := more
      cases turn' with
      | closed => rfl
      | answer msg => rfl
      | listen r' =>
          show ((sent ++ sent') ++ (next' r').1, (next' r').2) =
            (sent ++ (sent' ++ (next' r').1), (next' r').2)
          rw [List.append_assoc]

theorem receiveFrames_append (rxId : Nat) (fs gs : List (Nat × Bytes)) (r : Gathered UInt8) :
    receiveFrames rxId r (fs ++ gs) =
      goOn (receiveFrames rxId r fs) fun r => receiveFrames rxId r gs := by
  induction fs generalizing r with
  | nil => rfl
  | cons f fs ih =>
      show goOn _ (fun r => receiveFrames rxId r (fs ++ gs)) = goOn (goOn _ _) _
      rw [goOn_goOn]
      exact congrArg _ (funext ih)

/-- **How the frames fall into pumps does not show.** -/
theorem receivePumps_flatten (rxId : Nat) (ps : List (List (Nat × Bytes))) (r : Gathered UInt8) :
    receivePumps rxId r ps = receiveFrames rxId r ps.flatten := by
  induction ps generalizing r with
  | nil => rfl
  | cons p ps ih =>
      rw [List.flatten_cons, receiveFrames_append]
      exact congrArg _ (funext ih)

/-! ## 4. What the loop sends -/

/-- What the receive loop sends: acknowledgements and answers to channel tests. -/
def Reply (d : Bytes) : Prop := d = tp20ParamsResp ∨ ∃ n : UInt8, d = [0xb0 ||| (n &&& 0x0f)]

theorem receiveFrame_replies (rxId : Nat) (r : Gathered UInt8) (f : Nat × Bytes) :
    ∀ d ∈ (receiveFrame rxId r f).1, Reply d := by
  have hack : ∀ (op n : UInt8),
      ∀ d ∈ (if op = 0 ∨ op = 1 then [[0xb0 ||| (n &&& 0x0f)]] else [] : List Bytes), Reply d := by
    intro op n d hd
    split at hd
    · rw [List.mem_singleton.mp hd]
      exact Or.inr ⟨n, rfl⟩
    · cases hd
  unfold receiveFrame
  split
  · exact fun d hd => (nomatch hd)
  simp only
  split
  · exact fun d hd => (nomatch hd)
  split
  · split
    · exact fun d hd => (nomatch hd)
    · intro d hd
      split at hd
      · rw [List.mem_singleton.mp hd]
        exact Or.inl rfl
      · cases hd
  split
  · exact fun d hd => (nomatch hd)
  split
  · exact fun d hd => (nomatch hd)
  split
  · exact fun d hd => (nomatch hd)
  split
  · exact hack _ _
  · split
    · exact hack _ _
    · exact hack _ _

theorem receiveFrames_replies (rxId : Nat) (fs : List (Nat × Bytes)) (r : Gathered UInt8) :
    ∀ d ∈ (receiveFrames rxId r fs).1, Reply d := by
  induction fs generalizing r with
  | nil => exact fun d hd => (nomatch hd)
  | cons f fs ih =>
      have hf := receiveFrame_replies rxId r f
      unfold receiveFrames
      generalize receiveFrame rxId r f = t at hf
      obtain ⟨sent, turn⟩ := t
      cases turn with
      | closed => exact hf
      | answer msg => exact hf
      | listen r' =>
          intro d hd
          rcases List.mem_append.mp hd with hd | hd
          · exact hf d hd
          · exact ih r' d hd

end Openport.Car
