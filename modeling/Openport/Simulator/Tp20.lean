/-
  File:      Openport/Simulator/Tp20.lean
  Subject:   The simulated module behind a TP2.0 channel
             (`tests/sim/openport_sim.py`): `Tp20State`, `_tp20_send`,
             `_tp20_reply`, `_tp20_handle`.

  A message is cut into slices of seven bytes behind its 16-bit length; the last
  one asks for an acknowledgement. What the module puts on the bus is returned
  beside its state, a CAN id and the data each, and with it the requests it put
  together. `none` is an exception.
-/
import Openport.Lib.BigEndian
import Openport.Simulator.Frames

namespace Openport.Simulator

open Lib

/-! ## 1. Data frames -/

/-- The chunks with their opcodes: 1 asks for an acknowledgement, 2 says that more follow. -/
def lastAsks : List Bytes → List (UInt8 × Bytes)
  | [] => []
  | [c] => [(0x10, c)]
  | c :: cs => (0x20, c) :: lastAsks cs

/-- A body as data frames. -/
def tp20Chunks (message : Bytes) : List (UInt8 × Bytes) :=
  lastAsks (split (BigEndian.bytes 2 message.length ++ message) 7)

/-- The data of the frames under the numbers from `seq` on, and the number after them. -/
def numbered (seq : UInt8) : List (UInt8 × Bytes) → List Bytes × UInt8
  | [] => ([], seq)
  | (op, c) :: more =>
    let r := numbered ((seq + 1) &&& 0x0f) more
    (((op ||| (seq &&& 0x0f)) :: c) :: r.1, r.2)

/-! ## 2. The module -/

/-- `TP20_SETUP_ID`. -/
def tp20SetupId : Nat := 0x200

/-- `Tp20State`. -/
structure Tp20State where
  dest : Option UInt8 := none
  rxId : Option Nat := none
  txId : Option Nat := none
  txSeq : UInt8 := 0
  pending : Bytes := []
  want : Option Nat := none
  deriving DecidableEq, Repr

/-- What handling a frame did: whether it was taken, the module after it, what `_tp20_send` sent,
    and the requests `_tp20_reply` was given. -/
structure Handled where
  taken : Bool
  state : Tp20State
  sent : List (Nat × Bytes) := []
  answered : List Bytes := []
  deriving DecidableEq, Repr

/-- The response `_tp20_reply` finds: the request's own, else the one for `*`, else
    serviceNotSupported. An empty response of the request's own counts as none. -/
def ecuAnswer (ecu : Bytes → Option Bytes) (req : Bytes) : Option Bytes :=
  match (ecu req).filter (· ≠ []) with
  | some resp => some resp
  | none =>
    match ecu [0x2a] with
    | some resp => some resp
    | none => req.head?.map fun sid => [0x7f, sid, 0x11]

/-- `_tp20_reply`: the frames and the counter after them. -/
def tp20Reply (ecu : Bytes → Option Bytes) (seq : UInt8) (req : Bytes) :
    Option (List Bytes × UInt8) :=
  match ecuAnswer ecu req with
  | some resp => if 0xffff < resp.length then none else some (numbered seq (tp20Chunks resp))
  | none => none

/-- A data frame in `_tp20_handle`: `op` and `seq` are its opcode and number, `part` what is behind
    them. -/
def tp20Data (ecu : Bytes → Option Bytes) (t : Tp20State) (rxId : Nat) (op seq : UInt8)
    (part : Bytes) : Option Handled :=
  let ack := if op = 0 ∨ op = 1 then [(rxId, [0xb0 ||| ((seq + 1) &&& 0x0f)])] else []
  let held : Option Nat × Bytes :=
    match t.want, t.pending ++ part with
    | none, b0 :: b1 :: rest => (some (b0.toNat * 256 + b1.toNat), rest)
    | want, pending => (want, pending)
  match held.1 with
  | none => some { taken := true, state := { t with pending := held.2, want := none }, sent := ack }
  | some want =>
    if want ≤ held.2.length then
      let req := held.2.take want
      match tp20Reply ecu t.txSeq req with
      | none => none
      | some reply =>
        some { taken := true
               state := { t with pending := [], want := none, txSeq := reply.2 }
               sent := ack ++ reply.1.map fun d => (rxId, d)
               answered := [req] }
    else
      some { taken := true, state := { t with pending := held.2, want := some want }, sent := ack }

/-- `_tp20_handle`. -/
def tp20Handle (modules : List UInt8) (ecu : Bytes → Option Bytes) (t : Tp20State) (ch : Nat)
    (payload : Bytes) : Option Handled :=
  if ch ≠ 5 ∨ payload.length < 5 then some { taken := false, state := t }
  else
    let canId := BigEndian.value (payload.take 4)
    let d := payload.drop 4
    if canId = tp20SetupId ∧ d.length = 7 ∧ d.getD 1 0 = 0xc0 then
      let dest := d.headD 0
      if dest ∉ modules then some { taken := true, state := t }
      else
        some { taken := true
               state := { dest := some dest, rxId := some 0x300, txId := some 0x740 }
               sent := [(tp20SetupId + dest.toNat, [0x00, 0xd0, 0x00, 0x03, 0x40, 0x07, 0x01])] }
    else if t.txId ≠ some canId then some { taken := false, state := t }
    else
      match t.rxId, d with
      | some rxId, d0 :: part =>
        if d0 = 0xa0 ∨ d0 = 0xa3 then
          some { taken := true, state := t
                 sent := [(rxId, [0xa1, 0x0f, 0x8a, 0xff, 0x4a, 0xff])] }
        else if d0 = 0xa8 then
          some { taken := true, state := { t with txId := none, rxId := none }
                 sent := [(rxId, [0xa8])] }
        else
          let op := d0 >>> 4
          if op = 0xb ∨ op = 0x9 then some { taken := true, state := t }
          else if 3 < op then some { taken := true, state := t }
          else tp20Data ecu t rxId op (d0 &&& 0x0f) part
      | _, _ => none

/-! ## 3. Numbers -/

theorem low_nibble (seq : UInt8) : (seq &&& 0x0f).toNat = seq.toNat % 16 := by
  rw [UInt8.toNat_and]
  exact Nat.and_two_pow_sub_one_eq_mod seq.toNat 4

theorem number_byte : ∀ k < 16, ∀ op ∈ [(0x10 : UInt8), 0x20],
    (op ||| UInt8.ofNat k) >>> 4 = op >>> 4 ∧ (op ||| UInt8.ofNat k) &&& 0x0f = UInt8.ofNat k := by
  decide +kernel

/-- **A data frame's first byte gives back its opcode and its number.** -/
theorem number_split {op : UInt8} (seq : UInt8) (h : op = 0x10 ∨ op = 0x20) :
    (op ||| (seq &&& 0x0f)) >>> 4 = op >>> 4 ∧ (op ||| (seq &&& 0x0f)) &&& 0x0f = seq &&& 0x0f := by
  have hk : (seq &&& 0x0f).toNat < 16 := by
    rw [low_nibble]
    exact Nat.mod_lt _ (by decide)
  have hn := number_byte _ hk op (by
    rcases h with rfl | rfl
    · exact List.mem_cons_self
    · exact List.mem_cons_of_mem _ List.mem_cons_self)
  rwa [UInt8.ofNat_toNat] at hn

/-- The next number, from 15 on to 0. -/
theorem next_number (seq : UInt8) : ((seq + 1) &&& 0x0f).toNat = (seq.toNat + 1) % 16 := by
  rw [low_nibble, UInt8.toNat_add]
  have hone : (1 : UInt8).toNat = 1 := rfl
  omega

/-- An acknowledgement, whatever its number, is one. -/
theorem ack_byte : ∀ k < 16, (0xb0 ||| UInt8.ofNat k) >>> 4 = (0xb : UInt8) := by decide

theorem ack_shift (seq : UInt8) : (0xb0 ||| (seq &&& 0x0f)) >>> 4 = (0xb : UInt8) := by
  have hk : (seq &&& 0x0f).toNat < 16 := by
    rw [low_nibble]
    exact Nat.mod_lt _ (by decide)
  have := ack_byte _ hk
  rwa [UInt8.ofNat_toNat] at this

theorem numbered_next (seq op : UInt8) (c : Bytes) (more : List (UInt8 × Bytes)) :
    numbered seq ((op, c) :: more) =
      (((op ||| (seq &&& 0x0f)) :: c) :: (numbered ((seq + 1) &&& 0x0f) more).1,
        (numbered ((seq + 1) &&& 0x0f) more).2) := rfl

theorem lastAsks_cons (c c' : Bytes) (cs : List Bytes) :
    lastAsks (c :: c' :: cs) = (0x20, c) :: lastAsks (c' :: cs) := rfl

end Openport.Simulator
