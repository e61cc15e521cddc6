/-
  File:      Openport/Transport/Usb.lean
  Subject:   The receive side of `src/op_usb.c`: `ring_put`, `ring_get`,
             `rx_fail`, `rx_submit`, `rx_done`, `rx_start`, `usb_read`.

  Every function here is what the source does while it holds the lock. What
  libusb answers is an argument: the result of each submission, the status a
  read ends with and the bytes it brought. The slots are `rx[0]` to `rx[255]`,
  of which only `flying` is kept; the ring is a flat array, `ring_dropped` a
  `size_t` of 64 bits. Logs, wake-ups and what only `rx_stop` reads are left out.
-/
import Mathlib.Data.Fintype.Card
import Openport.Device.Device

namespace Openport.Usb

open Lib.Ring

/-! ## 1. What libusb answers -/

/-- What a libusb call returns: the codes `from_libusb` tells apart, and any other error. -/
inductive LibusbResult where
  | success | timeout | noDevice | notFound | access | busy | overflow | invalidParam
  | other (code : Int)
  deriving DecidableEq, Repr

/-- `from_libusb`. -/
def fromLibusb : LibusbResult → OpStatus
  | .success => .ok
  | .timeout => .timeout
  | .noDevice => .noDevice
  | .notFound => .noDevice
  | .access => .access
  | .busy => .access
  | .overflow => .overflow
  | .invalidParam => .param
  | .other _ => .io

/-- Only success is `OP_OK`. -/
theorem fromLibusb_eq_ok {r : LibusbResult} : fromLibusb r = .ok ↔ r = .success := by
  cases r <;> simp [fromLibusb]

/-- How a read ended: `x->status`, and with a completed one the bytes it brought, the first
    `actual_length` of `x->buffer`. -/
inductive TransferStatus where
  | completed (data : Bytes)
  | cancelled
  | noDevice
  /-- an error, a timeout, a stall or an overflow -/
  | other
  deriving DecidableEq, Repr

/-! ## 2. The receive side of the pipe -/

/-- Reads posted at once, `USB_RX_TRANSFERS`. -/
abbrev usbRxTransfers : Nat := 256

/-- `USB_RING_BYTES`. -/
def usbRingBytes : Nat := 1024 * 1024

/-- `op_usb`, its receive side; zero as `calloc` gives it. -/
structure OpUsb where
  /-- a slot's read is submitted and its callback not yet run -/
  flying : Fin usbRxTransfers → Bool := fun _ => false
  rxFlying : UInt32 := 0
  rxBatch : UInt32 := 0
  rxBatchMost : UInt32 := 0
  rxError : OpStatus := .ok
  stopping : Bool := false
  ring : Mem UInt8 := fun _ => 0
  ringHead : Nat := 0
  ringUsed : Nat := 0
  ringDropped : UInt64 := 0

/-- Set one slot's `flying`. -/
def OpUsb.setFlying (u : OpUsb) (i : Fin usbRxTransfers) (b : Bool) : OpUsb :=
  { u with flying := fun j => if j = i then b else u.flying j }

@[simp] theorem OpUsb.setFlying_same (u : OpUsb) (i : Fin usbRxTransfers) (b : Bool) :
    (u.setFlying i b).flying i = b := if_pos rfl

theorem OpUsb.setFlying_other (u : OpUsb) {i j : Fin usbRxTransfers} (b : Bool) (h : j ≠ i) :
    (u.setFlying i b).flying j = u.flying j := if_neg h

/-! ## 3. The ring -/

/-- `ring_put`: a read whose bytes do not fit is dropped whole. -/
def ringPut (u : OpUsb) (src : Bytes) : OpUsb :=
  if usbRingBytes - u.ringUsed < src.length then
    { u with ringDropped := u.ringDropped + UInt64.ofNat src.length }
  else
    { u with ring := put usbRingBytes u.ring ((u.ringHead + u.ringUsed) % usbRingBytes) src
             ringUsed := u.ringUsed + src.length }

/-- `ring_get`: at most `cap` bytes, and the ring behind them. -/
def ringGet (u : OpUsb) (cap : Nat) : Bytes × OpUsb :=
  let n := if u.ringUsed < cap then u.ringUsed else cap
  (get usbRingBytes u.ring u.ringHead n,
    { u with ringHead := (u.ringHead + n) % usbRingBytes, ringUsed := u.ringUsed - n })

/-! ## 4. The posted reads -/

/-- `rx_fail`: a lost device is never replaced by another error. -/
def rxFail (u : OpUsb) (st : OpStatus) : OpUsb :=
  if u.rxError ≠ .noDevice then { u with rxError := st } else u

/-- `rx_submit`; `r` is what `libusb_submit_transfer` returns. -/
def rxSubmit (u : OpUsb) (i : Fin usbRxTransfers) (r : LibusbResult) : OpUsb :=
  if r = .success then { u.setFlying i true with rxFlying := u.rxFlying + 1 }
  else rxFail u (fromLibusb r)

/-- `rx_done`; `r` is what its submission returns, if it makes one. -/
def rxDone (u : OpUsb) (i : Fin usbRxTransfers) (st : TransferStatus) (r : LibusbResult) : OpUsb :=
  let u := { u.setFlying i false with rxFlying := u.rxFlying - 1, rxBatch := u.rxBatch + 1 }
  match st with
  | .completed data =>
    let u := if 0 < data.length then ringPut u data else u
    if !u.stopping then rxSubmit u i r else u
  | .cancelled => u
  | .noDevice => rxFail u .noDevice
  | .other => rxFail u .io

/-- What `rx_events` does under the lock after each turn of its loop. -/
def rxEvents (u : OpUsb) : OpUsb :=
  { u with rxBatchMost := if u.rxBatchMost < u.rxBatch then u.rxBatch else u.rxBatchMost
           rxBatch := 0 }

/-- The loop over the slots in `rx_start` and `usb_read`: it ends with the first submission that
    fails. -/
def submitLoop (due : OpUsb → Fin usbRxTransfers → Bool)
    (submit : Fin usbRxTransfers → LibusbResult) : List (Fin usbRxTransfers) → OpUsb → OpUsb
  | [], u => u
  | i :: is, u =>
    if u.rxError = .ok then
      submitLoop due submit is (if due u i then rxSubmit u i (submit i) else u)
    else u

/-- The slots `usb_read` posts again: the idle ones. -/
def idle (u : OpUsb) (i : Fin usbRxTransfers) : Bool := !u.flying i

/-- What `rx_start` is given: `malloc` for the ring, whether every transfer and its buffer could
    be allocated, whether the event thread could be started, and each submission's result. -/
structure RxStartEnv where
  ring : Option (Mem UInt8)
  transfers : Bool
  events : Bool
  submit : Fin usbRxTransfers → LibusbResult

/-- `rx_start`. -/
def rxStart (env : RxStartEnv) (u : OpUsb) : OpStatus × OpUsb :=
  match env.ring with
  | none => (.io, u)
  | some m =>
    let u := { u with ring := m }
    if !env.transfers then (.io, u)
    else if !env.events then (.io, u)
    else
      let u := submitLoop (fun _ _ => true) env.submit (List.finRange usbRxTransfers) u
      (u.rxError, u)

/-- What `usb_read` gives back: its status, the bytes, and the count of dropped bytes it logs. -/
structure UsbReadResult where
  status : OpStatus
  bytes : Bytes := []
  dropped : UInt64 := 0
  usb : OpUsb

/-- `usb_read`, from the end of its wait on: the wait is over when the ring holds bytes, an error
    is to be reported or the time is up. -/
def usbRead (u : OpUsb) (cap : Nat) (submit : Fin usbRxTransfers → LibusbResult) :
    UsbReadResult :=
  if cap = 0 then { status := .param, usb := u }
  else
    let r : UsbReadResult :=
      if 0 < u.ringUsed then
        let g := ringGet u cap
        { status := .ok, bytes := g.1, usb := g.2 }
      else if u.rxError ≠ .ok then
        { status := u.rxError
          usb :=
            if u.rxError ≠ .noDevice then
              submitLoop idle submit (List.finRange usbRxTransfers) { u with rxError := .ok }
            else u }
      else { status := .timeout, usb := u }
    { r with dropped := r.usb.ringDropped, usb := { r.usb with ringDropped := 0 } }

/-! ## 5. Runs -/

/-- The steps of the receive side between `rx_start` and `rx_stop`, each under the lock. -/
inductive Op where
  | done (i : Fin usbRxTransfers) (st : TransferStatus) (r : LibusbResult)
  | read (cap : Nat) (submit : Fin usbRxTransfers → LibusbResult)
  | events

def OpUsb.step (u : OpUsb) : Op → OpUsb
  | .done i st r => rxDone u i st r
  | .read cap submit => (usbRead u cap submit).usb
  | .events => rxEvents u

/-- libusb runs the callback of a submitted read only, and once; it reports a read as cancelled
    only after a cancel, which `rx_stop` alone asks for. -/
def Allowed (u : OpUsb) : Op → Prop
  | .done i st _ => u.flying i = true ∧ st ≠ .cancelled
  | _ => True

/-- A state the receive side comes to from another. -/
inductive Reaches (u : OpUsb) : OpUsb → Prop where
  | refl : Reaches u u
  | step {v : OpUsb} (op : Op) : Reaches u v → Allowed v op → Reaches u (v.step op)

/-- A state the receive side comes to after `rx_start` has returned `OP_OK`. -/
def Reachable (u : OpUsb) : Prop :=
  ∃ env v, rxStart env {} = (.ok, v) ∧ Reaches v u

end Openport.Usb
