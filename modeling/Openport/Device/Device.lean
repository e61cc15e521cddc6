/-
  File:      Openport/Device/Device.lean
  Subject:   `op_device` (`src/op_device.h`) and the operations on one of its
             channels: `op_device_pop`, `op_device_take_dropped`,
             `op_device_flush_channel`, `op_device_open_channel`,
             `op_device_close_channel`.

  The lock, the condition variables and the reader thread are not fields: every
  function here is what the source does while it holds the lock. `log` is not a
  field of the source either: it is what the transport was given, for the
  statements about the wire.
-/
import Openport.Proto.Reply
import Openport.Device.Channel

namespace Openport

open Lib.Ring

/-- `op_status`. -/
inductive OpStatus where
  | ok | timeout | io | noDevice | access | massStorage | param | overflow | protocol | stalled
  deriving DecidableEq, Repr

/-- `op_status_to_j2534`. -/
def opStatusToJ2534 : OpStatus → Nat
  | .ok => statusNoerror
  | .timeout => errTimeout
  | .noDevice => errDeviceNotConnected
  | .massStorage => errDeviceNotConnected
  | .access => errDeviceInUse
  | .param => errNullParameter
  | .overflow => errBufferOverflow
  | .io => errFailed
  | .protocol => errFailed
  | .stalled => errDeviceNotConnected

theorem opStatusToJ2534_eq_zero {st : OpStatus} : opStatusToJ2534 st = statusNoerror ↔
    st = .ok := by
  cases st <;> decide

/-! ## 1. What the transport was given -/

/-- One command transaction, as `cmd_exchange` ran it. -/
structure Txn where
  /-- the command line with its number and CR LF, as it was written -/
  line : Bytes
  payload : Bytes
  /-- the number the line carries, 0 for none -/
  seq : UInt32
  waited : Bool
  timeoutMs : UInt32
  /-- what the transport answered to the write -/
  written : OpStatus
  result : OpStatus
  /-- the reply the caller was given -/
  reply : Option OpReply
  deriving DecidableEq, Repr

/-- The bytes of a transaction, one write. -/
def Txn.bytes (t : Txn) : Bytes := t.line ++ t.payload

/-- An entry of the log: a session begins, or a transaction ends. -/
inductive Event where
  | session
  | txn (t : Txn)
  deriving DecidableEq, Repr

/-! ## 2. The device -/

/-- `op_device`; zero as the static `g_device` starts. -/
structure OpDevice where
  opened : Bool := false
  lost : Bool := false
  /-- a command is awaiting its reply -/
  cmdWaiting : Bool := false
  replyValid : Bool := false
  seqNext : UInt32 := 0
  /-- number the waiting command carries, 0 = unnumbered -/
  seqPending : UInt32 := 0
  cmdVerb : UInt8 := 0
  reply : OpReply := .incomplete
  replyText : Mem UInt8 := fun _ => 0
  replyData : Mem UInt8 := fun _ => 0
  accum : Bytes := []
  ch : Fin 10 → OpChannel := fun _ => {}
  pinsGrounded : UInt32 := 0
  pinsPowered : UInt32 := 0
  fwVersion : Bytes := []
  /-- every transaction so far, newest first -/
  log : List Event := []

/-- Replace one channel. -/
def OpDevice.setCh (d : OpDevice) (i : Fin 10) (c : OpChannel) : OpDevice :=
  { d with ch := fun j => if j = i then c else d.ch j }

@[simp] theorem OpDevice.setCh_same (d : OpDevice) (i : Fin 10) (c : OpChannel) :
    (d.setCh i c).ch i = c := if_pos rfl

theorem OpDevice.setCh_other (d : OpDevice) {i j : Fin 10} (c : OpChannel) (h : j ≠ i) :
    (d.setCh i c).ch j = d.ch j := if_neg h

theorem OpDevice.setCh_log (d : OpDevice) (i : Fin 10) (c : OpChannel) :
    (d.setCh i c).log = d.log := rfl

/-! ## 3. Operations on a channel -/

/-- `op_device_pop`, from the end of its wait on. -/
def opDevicePop (d : OpDevice) (i : Fin 10) : OpStatus × Option PassThruMsg × OpDevice :=
  if !d.opened || d.lost then (.noDevice, none, d)
  else if 0 < (d.ch i).qcount then
    let p := queuePop (d.ch i)
    (.ok, some p.1, d.setCh i p.2)
  else (.timeout, none, d)

/-- `op_device_take_dropped`. -/
def opDeviceTakeDropped (d : OpDevice) (i : Fin 10) : UInt32 × OpDevice :=
  if !d.opened then (0, d)
  else ((d.ch i).dropped, d.setCh i { d.ch i with dropped := 0 })

/-- `op_device_flush_channel`. -/
def opDeviceFlushChannel (d : OpDevice) (i : Fin 10) : OpDevice := d.setCh i (flushLocked (d.ch i))

/-- `op_device_open_channel`; `mem` is what `malloc` would give. -/
def opDeviceOpenChannel (d : OpDevice) (i : Fin 10) (mem : Option (Mem UInt8)) (protocol : UInt32) :
    OpStatus × OpDevice :=
  let c := openChannel (d.ch i) mem protocol
  (if c.rq.isSome then .ok else .io, d.setCh i c)

/-- `op_device_close_channel`. -/
def opDeviceCloseChannel (d : OpDevice) (i : Fin 10) : OpDevice := d.setCh i (closeChannel (d.ch i))

end Openport
