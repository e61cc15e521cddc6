/-
  File:      Openport/J2534.lean
  Subject:   `include/j2534/j2534.h`: the constants and the message type of the
             interface, and `op_err_name` (`src/op_error.c`).

  `J_U32` is `unsigned long`, 64 bits on the platforms the driver builds for
  (the header's own note), so every argument of an entry point is a `UInt64`.
-/
import Mathlib.Algebra.Group.Nat.Defs
import Mathlib.Data.List.Basic

namespace Openport

/-- The bytes of an ASCII text. -/
def ascii (s : String) : List UInt8 := s.toList.map fun c => UInt8.ofNat c.toNat

/-! ## 1. Protocols -/

def iso9141 : UInt64 := 3
def iso14230 : UInt64 := 4
def can : UInt64 := 5
def iso15765 : UInt64 := 6

/-- J2534-2 ids; each is opened on the firmware channel its comment in the header names. -/
def canCh1 : UInt64 := 0x9000
def iso9141Ch1 : UInt64 := 0x9240
def iso9141Ch2 : UInt64 := 0x9241
def iso9141Ch3 : UInt64 := 0x9242
def iso14230Ch1 : UInt64 := 0x9320
def iso14230Ch2 : UInt64 := 0x9321
def iso15765Ch1 : UInt64 := 0x9400

/-! ## 2. Return values -/

def statusNoerror : Nat := 0x00
def errNotSupported : Nat := 0x01
def errInvalidChannelId : Nat := 0x02
def errInvalidProtocolId : Nat := 0x03
def errNullParameter : Nat := 0x04
def errFailed : Nat := 0x07
def errDeviceNotConnected : Nat := 0x08
def errTimeout : Nat := 0x09
def errInvalidMsg : Nat := 0x0A
def errInvalidTimeInterval : Nat := 0x0B
def errExceededLimit : Nat := 0x0C
def errInvalidMsgId : Nat := 0x0D
def errDeviceInUse : Nat := 0x0E
def errInvalidIoctlId : Nat := 0x0F
def errBufferEmpty : Nat := 0x10
def errBufferOverflow : Nat := 0x12
def errPinInvalid : Nat := 0x13
def errChannelInUse : Nat := 0x14
def errMsgProtocolId : Nat := 0x15
def errInvalidBaudrate : Nat := 0x19
def errInvalidDeviceId : Nat := 0x1A
def errInitFailed : Nat := 0x21
def errJ2534Highest : Nat := 0x27
def errOemVoltageTooHigh : Nat := 0x77
def errOemVoltageTooLow : Nat := 0x78

/-- `op_err_name`. -/
def opErrName (code : Nat) : String :=
  match code with
  | 0x00 => "STATUS_NOERROR"
  | 0x01 => "ERR_NOT_SUPPORTED"
  | 0x02 => "ERR_INVALID_CHANNEL_ID"
  | 0x03 => "ERR_INVALID_PROTOCOL_ID"
  | 0x04 => "ERR_NULL_PARAMETER"
  | 0x05 => "ERR_INVALID_IOCTL_VALUE"
  | 0x06 => "ERR_INVALID_FLAGS"
  | 0x07 => "ERR_FAILED"
  | 0x08 => "ERR_DEVICE_NOT_CONNECTED"
  | 0x09 => "ERR_TIMEOUT"
  | 0x0A => "ERR_INVALID_MSG"
  | 0x0B => "ERR_INVALID_TIME_INTERVAL"
  | 0x0C => "ERR_EXCEEDED_LIMIT"
  | 0x0D => "ERR_INVALID_MSG_ID"
  | 0x0E => "ERR_DEVICE_IN_USE"
  | 0x0F => "ERR_INVALID_IOCTL_ID"
  | 0x10 => "ERR_BUFFER_EMPTY"
  | 0x11 => "ERR_BUFFER_FULL"
  | 0x12 => "ERR_BUFFER_OVERFLOW"
  | 0x13 => "ERR_PIN_INVALID"
  | 0x14 => "ERR_CHANNEL_IN_USE"
  | 0x15 => "ERR_MSG_PROTOCOL_ID"
  | 0x16 => "ERR_INVALID_FILTER_ID"
  | 0x17 => "ERR_NO_FLOW_CONTROL"
  | 0x18 => "ERR_NOT_UNIQUE"
  | 0x19 => "ERR_INVALID_BAUDRATE"
  | 0x1A => "ERR_INVALID_DEVICE_ID"
  | 0x21 => "ERR_INIT_FAILED"
  | 0x77 => "ERR_OEM_VOLTAGE_TOO_HIGH"
  | 0x78 => "ERR_OEM_VOLTAGE_TOO_LOW"
  | _ => "ERR_UNKNOWN"

/-! ## 3. Flags, filters, ioctls -/

def can29BitId : UInt64 := 0x100
def txMsgType : UInt64 := 0x01
/-- `START_OF_MESSAGE` has the same value. -/
def iso15765FirstFrame : UInt64 := 0x02
def txDone : UInt64 := 0x08
def iso15765AddrType : UInt64 := 0x80

/-- Pin values of `PassThruSetProgrammingVoltage`. -/
def voltageOff : UInt64 := 0xFFFFFFFF
def shortToGround : UInt64 := 0xFFFFFFFE

/-- Ioctl ids; the last three before `READ_PROG_VOLTAGE` are the functional message table's. -/
def getConfig : UInt64 := 0x01
def setConfig : UInt64 := 0x02
def readVbatt : UInt64 := 0x03
def fiveBaudInit : UInt64 := 0x04
def fastInit : UInt64 := 0x05
def clearTxBuffer : UInt64 := 0x07
def clearRxBuffer : UInt64 := 0x08
def clearPeriodicMsgs : UInt64 := 0x09
def clearMsgFilters : UInt64 := 0x0A
def clearFunctMsgLookupTable : UInt64 := 0x0B
def addToFunctMsgLookupTable : UInt64 := 0x0C
def deleteFromFunctMsgLookupTable : UInt64 := 0x0D
def readProgVoltage : UInt64 := 0x0E

/-! ## 4. Messages -/

/-- Bytes of `PASSTHRU_MSG.Data`, `J2534_MSG_DATA_MAX`. -/
def j2534MsgDataMax : Nat := 4128

/-- `PASSTHRU_MSG`; a zero value is what `memset` leaves. -/
structure PassThruMsg where
  protocolID : UInt64 := 0
  rxStatus : UInt64 := 0
  txFlags : UInt64 := 0
  timestamp : UInt64 := 0
  dataSize : UInt64 := 0
  extraDataIndex : UInt64 := 0
  /-- the array, by index; only the first `j2534MsgDataMax` bytes are there -/
  data : Nat → UInt8 := fun _ => 0

/-- The first `n` bytes of a message's data. -/
def PassThruMsg.bytes (m : PassThruMsg) (n : Nat) : List UInt8 := (List.range n).map m.data

/-- The bytes that count: `DataSize` of them, all there are if it is larger. -/
def PassThruMsg.size (m : PassThruMsg) : Nat := min m.dataSize.toNat j2534MsgDataMax

/-- A message as the caller of `queue_push` builds it: its six fields fit the queue's 32-bit
    header and its data fits the array. -/
structure PassThruMsg.Fits (m : PassThruMsg) : Prop where
  protocolID : m.protocolID.toNat < 2 ^ 32
  rxStatus : m.rxStatus.toNat < 2 ^ 32
  txFlags : m.txFlags.toNat < 2 ^ 32
  timestamp : m.timestamp.toNat < 2 ^ 32
  extraDataIndex : m.extraDataIndex.toNat < 2 ^ 32
  dataSize : m.dataSize.toNat ≤ j2534MsgDataMax

theorem PassThruMsg.size_le (m : PassThruMsg) : m.size ≤ j2534MsgDataMax := Nat.min_le_right _ _

@[simp] theorem PassThruMsg.bytes_length (m : PassThruMsg) (n : Nat) : (m.bytes n).length = n := by
  unfold PassThruMsg.bytes
  rw [List.length_map, List.length_range]

/-- An array that starts with `bs` and is zero behind it. -/
def dataOf (bs : List UInt8) : Nat → UInt8 := fun i => bs.getD i 0

theorem dataOf_bytes (m : PassThruMsg) (n i : Nat) :
    dataOf (m.bytes n) i = if i < n then m.data i else 0 := by
  unfold dataOf PassThruMsg.bytes
  rw [List.getD_eq_getElem?_getD, List.getElem?_map]
  by_cases h : i < n
  · rw [if_pos h, List.getElem?_range h]
    rfl
  · rw [if_neg h, List.getElem?_eq_none (by rw [List.length_range]; omega)]
    rfl

end Openport
