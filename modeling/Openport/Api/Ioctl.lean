/-
  File:      Openport/Api/Ioctl.lean
  Subject:   `PassThruSetProgrammingVoltage` and `PassThruIoctl` with its helpers
             (`src/op_j2534.c`).

  `pInput` and `pOutput` of an ioctl are read as what the ioctl takes them for;
  `IoctlIn` and `IoctlOut` hold each reading, `none` or `false` for NULL.
-/
import Openport.Api.Session

namespace Openport

/-! ## 1. Programming voltage -/

/-- `(int32_t)(uint32_t)v`, as `%ld` prints it. -/
def asSigned32 (v : UInt64) : Int :=
  if v.toUInt32.toNat < 2 ^ 31 then v.toUInt32.toNat else (v.toUInt32.toNat : Int) - 2 ^ 32

/-- "atv %lu %ld\r\n" -/
def cmdVoltage (pin voltage : UInt64) : Bytes :=
  Command.line { verb := 0x76, args := [(pin.toNat : Int), asSigned32 voltage] }

/-- An open channel that drives the pin, the first. -/
def pinHolder (d : OpDevice) (pin : UInt64) : Option (Fin 10) :=
  (List.finRange 10).find? fun i =>
    (d.ch i).isOpen && protocolUsesPin (d.ch i).protocol.toUInt64 pin

/-- The pin sets after an acknowledged `atv`. -/
def pinsAfter (d : OpDevice) (pin voltage : UInt64) : OpDevice :=
  if pin < 32 then
    let grounded := d.pinsGrounded &&& ~~~pinBit pin
    let powered := d.pinsPowered &&& ~~~pinBit pin
    if voltage = shortToGround then
      { d with pinsGrounded := grounded ||| pinBit pin, pinsPowered := powered }
    else if voltage ≠ voltageOff then
      { d with pinsGrounded := grounded, pinsPowered := powered ||| pinBit pin }
    else { d with pinsGrounded := grounded, pinsPowered := powered }
  else d

/-- Whether `PassThruSetProgrammingVoltage` refuses because another pin has voltage. -/
def voltageElsewhere (d : OpDevice) (pin voltage : UInt64) : Bool :=
  voltage != voltageOff && voltage != shortToGround && decide (pin < 32) &&
    d.pinsPowered &&& ~~~pinBit pin != 0

/-- `PassThruSetProgrammingVoltage`. -/
def passThruSetProgrammingVoltage (env : CallEnv) (s : Driver)
    (deviceID pinNumber voltage : UInt64) :
    Ret Unit :=
  let s := s.errClear
  if !deviceOpen s.dev deviceID then s.fail errInvalidDeviceId "PassThruSetProgrammingVoltage"
  else if voltageElsewhere s.dev pinNumber voltage then
    s.failText errPinInvalid ("PassThruSetProgrammingVoltage: another pin already has " ++
      "voltage, and all pins share one supply; switch it off first")
  else
    match (pinHolder s.dev pinNumber).filter fun _ => voltage == shortToGround with
    | some i => s.failText errChannelInUse ("PassThruSetProgrammingVoltage: pin " ++
        toString pinNumber.toNat ++ " carries open channel " ++ toString i.val)
    | none =>
      let line := cmdVoltage pinNumber voltage
      if opCmdMax ≤ line.length then s.fail errFailed "PassThruSetProgrammingVoltage"
      else
        let r := simpleCmd (env.exchange 0) s.dev line [] opDefaultCmdMs
        if r.1 ≠ statusNoerror then
          { s with dev := r.2.2 }.fail r.1 "PassThruSetProgrammingVoltage"
        else { s with dev := pinsAfter r.2.2 pinNumber voltage }.done none

/-! ## 2. Arguments of an ioctl -/

/-- `SCONFIG_LIST`: how many, and the parameters with their values, `none` for a NULL pointer. -/
structure SConfigList where
  numOfParams : UInt64
  config : Option (Nat → UInt64 × UInt64)

/-- `SBYTE_ARRAY`: how many, and the bytes, `none` for a NULL pointer. -/
structure SByteArray where
  numOfBytes : UInt64
  bytes : Option (Nat → UInt8)

/-- What `pInput` points at. -/
structure IoctlIn where
  config : Option SConfigList := none
  pin : Option UInt64 := none
  bytes : Option SByteArray := none
  msg : Option PassThruMsg := none

/-- What `pOutput` points at. -/
structure IoctlOut where
  value : Bool := false
  bytes : Option SByteArray := none
  msg : Bool := false

/-- What an ioctl wrote: values into the caller's parameter list by index, a single value, bytes
    and how many, a message. -/
structure IoctlResult where
  config : List (Nat × UInt64) := []
  value : Option UInt64 := none
  bytes : Option Bytes := none
  msg : Option PassThruMsg := none

/-! ## 3. The ioctls -/

/-- The loop of `ioctl_get_config`: `i` parameters are done, at most `fuel` are left; `rc` is the
    status of the last, `values` what was written. -/
def getConfigLoop (env : CallEnv) (ch : Fin 10) (list : Nat → UInt64 × UInt64) :
    Nat → Nat → Nat → List (Nat × UInt64) → OpDevice → Nat × List (Nat × UInt64) × OpDevice
  | 0, _, rc, values, d => (rc, values, d)
  | fuel + 1, i, _, values, d =>
    let r := simpleCmd (env.exchange i) d (opCmdGetConfig ch.val (list i).1.toUInt32) []
      opDefaultCmdMs
    let rc := if r.1 = statusNoerror ∧ r.2.1.map (·.kind) ≠ some .config then errFailed else r.1
    let value := (r.2.1.getD .incomplete).b
    let values := if rc = statusNoerror then values ++ [(i, value.toUInt64)] else values
    getConfigLoop env ch list fuel (i + 1) rc values r.2.2

/-- The parameters of a list, `none` where `ioctl_get_config` and `ioctl_set_config` refuse it. -/
def configParams (list : Option SConfigList) : Option (Nat × (Nat → UInt64 × UInt64)) :=
  match list with
  | none => none
  | some l =>
    if 0 < l.numOfParams ∧ l.config.isNone then none
    else some (l.numOfParams.toNat, l.config.getD fun _ => (0, 0))

/-- `ioctl_get_config`. -/
def ioctlGetConfig (env : CallEnv) (d : OpDevice) (ch : Fin 10) (list : Option SConfigList) :
    Nat × List (Nat × UInt64) × OpDevice :=
  match configParams list with
  | none => (errNullParameter, [], d)
  | some p => getConfigLoop env ch p.2 p.1 0 statusNoerror [] d

/-- The loop of `ioctl_set_config`. -/
def setConfigLoop (env : CallEnv) (ch : Fin 10) (list : Nat → UInt64 × UInt64) :
    Nat → Nat → Nat → OpDevice → Nat × OpDevice
  | 0, _, rc, d => (rc, d)
  | fuel + 1, i, _, d =>
    let line := opCmdSetConfig ch.val (list i).1.toUInt32 (list i).2.toUInt32
    let r := simpleCmd (env.exchange i) d line [] opDefaultCmdMs
    setConfigLoop env ch list fuel (i + 1) r.1 r.2.2

/-- `ioctl_set_config`. -/
def ioctlSetConfig (env : CallEnv) (d : OpDevice) (ch : Fin 10) (list : Option SConfigList) :
    Nat × OpDevice :=
  match configParams list with
  | none => (errNullParameter, d)
  | some p => setConfigLoop env ch p.2 p.1 0 statusNoerror d

/-- `OP_PIN_VBATT` and `OP_PIN_PROG_VOLTAGE`. -/
def opPinVbatt : UInt32 := 16
def opPinProgVoltage : UInt32 := 12

/-- `ioctl_read_pin`. -/
def ioctlReadPin (env : CallEnv) (d : OpDevice) (pin : UInt32) (out : Bool) :
    Nat × Option UInt64 × OpDevice :=
  if !out then (errNullParameter, none, d)
  else
    let r := simpleCmd (env.exchange 0) d (opCmdReadPin pin) [] opDefaultCmdMs
    if r.1 ≠ statusNoerror then (r.1, none, r.2.2)
    else
      match r.2.1.filter fun reply => reply.kind == .pin with
      | none => (errFailed, none, r.2.2)
      | some reply => (statusNoerror, some reply.b.toUInt64, r.2.2)

/-- The command of `ioctl_init` and its payload, or the code it refuses the arguments with. -/
def initCommand (ch : Fin 10) (fiveBaud : Bool) (input : IoctlIn) (output : IoctlOut) :
    Except Nat (Bytes × Bytes) :=
  if fiveBaud then
    match input.bytes with
    | some ⟨n, some bytes⟩ =>
      if n < 1 then .error errNullParameter
      -- the key bytes need somewhere to go
      else if (output.bytes.bind (·.bytes)).isNone then .error errNullParameter
      else .ok (opCmdFiveBaud ch.val (bytes 0), [])
    | _ => .error errNullParameter
  else
    match input.msg with
    -- no message: the wake-up pattern alone
    | none => .ok (opCmdFastInit ch.val 0, [])
    | some m =>
      if 255 < m.dataSize then .error errInvalidMsg
      else .ok (opCmdFastInit ch.val m.dataSize.toNat, m.bytes m.dataSize.toNat)

/-- What `ioctl_init` writes of the ECU's answer. -/
def initResult (c : OpChannel) (fiveBaud : Bool) (output : IoctlOut) (data : Bytes) : IoctlResult :=
  if fiveBaud then { bytes := output.bytes.map fun out => data.take out.numOfBytes.toNat }
  else if output.msg then
    let data := data.take j2534MsgDataMax
    { msg := some { protocolID := c.protocol.toUInt64, dataSize := UInt64.ofNat data.length
                    extraDataIndex := UInt64.ofNat data.length, data := dataOf data } }
  else {}

/-- `ioctl_init`. -/
def ioctlInit (env : CallEnv) (s : Driver) (ch : Fin 10) (fiveBaud : Bool) (input : IoctlIn)
    (output : IoctlOut) : Nat × IoctlResult × Driver :=
  match initCommand ch fiveBaud input output with
  | .error code => (code, {}, s)
  | .ok (line, payload) =>
    if line = [] then (errFailed, {}, s)
    else
      let r := simpleCmd (env.exchange 0) s.dev line payload 5000
      let s := { s with dev := r.2.2 }
      if r.1 ≠ statusNoerror then (r.1, {}, s)
      else
        let reply := r.2.1.getD .incomplete
        let data := reply.data.getD []
        if reply.kind ≠ .init ∨ data = [] then
          (errInitFailed, {}, s.errSet ("K-line init: no answer from the ECU (device " ++
            (if reply.kind = .init then "returned an empty result"
              else "acknowledged without initialising") ++ ")"))
        else (statusNoerror, initResult (s.dev.ch ch) fiveBaud output data, s)

/-! ## 4. The entry point -/

/-- The ioctls of a channel. -/
def channelIoctl (env : CallEnv) (s : Driver) (i : Fin 10) (ioctlID : UInt64) (input : IoctlIn)
    (output : IoctlOut) : Ret IoctlResult :=
  if ioctlID = getConfig then
    let r := ioctlGetConfig env s.dev i input.config
    ({ s with dev := r.2.2 }.failed r.1 "PassThruIoctl(GET_CONFIG)").writing { config := r.2.1 }
  else if ioctlID = setConfig then
    let r := ioctlSetConfig env s.dev i input.config
    { s with dev := r.2 }.failed r.1 "PassThruIoctl(SET_CONFIG)"
  else if ioctlID = fiveBaudInit then
    let r := ioctlInit env s i true input output
    (r.2.2.failed r.1 "PassThruIoctl(FIVE_BAUD_INIT)").writing r.2.1
  else if ioctlID = fastInit then
    let r := ioctlInit env s i false input output
    (r.2.2.failed r.1 "PassThruIoctl(FAST_INIT)").writing r.2.1
  else if ioctlID = clearTxBuffer then s.done none
  else if ioctlID = clearRxBuffer then { s with dev := opDeviceFlushChannel s.dev i }.done none
  else if ioctlID = clearPeriodicMsgs then
    let r := simpleCmd (env.exchange 0) s.dev (opCmdClearPeriodic i.val) [] opDefaultCmdMs
    if r.1 ≠ statusNoerror then { s with dev := r.2.2 }.fail
      r.1 "PassThruIoctl(CLEAR_PERIODIC_MSGS)"
    else { s with dev := r.2.2.setCh i { r.2.2.ch i with periodic := [] } }.done none
  else
    let r := simpleCmd (env.exchange 0) s.dev (opCmdClearFilters i.val) [] opDefaultCmdMs
    { s with dev := r.2.2 }.failed r.1 "PassThruIoctl(CLEAR_MSG_FILTERS)"

/-- The name an ioctl of a channel fails under. -/
def channelIoctlName (ioctlID : UInt64) : Option String :=
  if ioctlID = getConfig then some "PassThruIoctl(GET_CONFIG)"
  else if ioctlID = setConfig then some "PassThruIoctl(SET_CONFIG)"
  else if ioctlID = fiveBaudInit then some "PassThruIoctl(FIVE_BAUD_INIT)"
  else if ioctlID = fastInit then some "PassThruIoctl(FAST_INIT)"
  else if ioctlID = clearTxBuffer then some "PassThruIoctl(CLEAR_TX_BUFFER)"
  else if ioctlID = clearRxBuffer then some "PassThruIoctl(CLEAR_RX_BUFFER)"
  else if ioctlID = clearPeriodicMsgs then some "PassThruIoctl(CLEAR_PERIODIC_MSGS)"
  else if ioctlID = clearMsgFilters then some "PassThruIoctl(CLEAR_MSG_FILTERS)"
  else none

/-- `PassThruIoctl`. -/
def passThruIoctl (env : CallEnv) (s : Driver) (channelID ioctlID : UInt64) (input : IoctlIn)
    (output : IoctlOut) : Ret IoctlResult :=
  let s := s.errClear
  if !s.dev.opened then s.fail errInvalidDeviceId "PassThruIoctl"
  else if ioctlID = readVbatt then
    let r := ioctlReadPin env s.dev opPinVbatt output.value
    ({ s with dev := r.2.2 }.failed r.1 "PassThruIoctl(READ_VBATT)").writing { value := r.2.1 }
  else if ioctlID = readProgVoltage then
    -- the standard passes NULL; Tactrix's library reads a pin number there
    let pin := (input.pin.map (·.toUInt32)).getD opPinProgVoltage
    let r := ioctlReadPin env s.dev pin output.value
    ({ s with dev := r.2.2 }.failed r.1 "PassThruIoctl(READ_PROG_VOLTAGE)").writing
    { value := r.2.1 }
  else
    match channelIoctlName ioctlID with
    | some name =>
      match channelOf s.dev channelID with
      | none => s.fail errInvalidChannelId name
      | some i => channelIoctl env s i ioctlID input output
    | none =>
      if ioctlID = clearFunctMsgLookupTable ∨ ioctlID = addToFunctMsgLookupTable ∨
          ioctlID = deleteFromFunctMsgLookupTable then
        s.fail errNotSupported "PassThruIoctl: functional message table"
      else s.fail errInvalidIoctlId "PassThruIoctl"

end Openport
