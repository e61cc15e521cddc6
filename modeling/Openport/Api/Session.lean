/-
  File:      Openport/Api/Session.lean
  Subject:   The entry points that begin and end things (`src/op_j2534.c`):
             `PassThruOpen`, `PassThruClose`, `PassThruConnect`,
             `PassThruDisconnect`, `PassThruReadVersion`,
             `PassThruGetLastError`.
-/
import Openport.Api.Driver

namespace Openport

/-! ## 1. The device -/

/-- What `PassThruOpen` makes of an `op_device_open` that failed. -/
def openFailed (s : Driver) (st : OpStatus) (lastDetail : Option String) : Ret UInt64 :=
  let bare (s : Driver) (code : Nat) : Driver :=
    match lastDetail with
    | some detail => s.errSet detail
    | none => if code ≠ errFailed then s.errSet ("PassThruOpen: " ++ opErrName code) else s
  match st with
  | .access => ⟨errDeviceInUse, none, bare s errDeviceInUse⟩
  | .stalled => s.failText errDeviceNotConnected
      "The OpenPort takes no USB data; its firmware has stopped. Replug its USB."
  | .protocol => s.failText errFailed
      "Device found but it is not answering the protocol correctly (stream may be corrupt)."
  | _ => ⟨errDeviceNotConnected, none, bare s errDeviceNotConnected⟩

/-- `OP_VERSION_MAX`. -/
def opVersionMax : Nat := 64

/-- `PassThruOpen` after `op_device_open`: ask for the version. -/
def identify (env : CallEnv) (s : Driver) : Ret UInt64 :=
  let r := simpleCmd (env.exchange 0) s.dev opCmdVersion [] opDefaultCmdMs
  let closed : Driver := { s with dev := opDeviceClose r.2.2 }
  if r.1 ≠ statusNoerror then closed.fail r.1 "PassThruOpen: device did not identify"
  else
    match r.2.1 with
    | none => closed.failText errFailed "PassThruOpen: device replies are out of step"
    | some reply =>
      if reply.kind ≠ .info then
        closed.failText errFailed "PassThruOpen: device replies are out of step"
      else
        let v := opParseVersion reply.text opVersionMax
        if !v.1 then
          { closed with dev := { closed.dev with fwVersion := v.2 } }.failText errFailed
            "PassThruOpen: unrecognised version reply"
        else { s with dev := { r.2.2 with fwVersion := v.2 } }.done (some opDeviceId)

/-- `PassThruOpen`; `pDeviceID` says whether the pointer is there. -/
def passThruOpen (env : CallEnv) (s : Driver) (pDeviceID : Bool) : Ret UInt64 :=
  let s := s.errClear
  if !pDeviceID then s.fail errNullParameter "PassThruOpen(pDeviceID)"
  else if s.dev.opened && !s.dev.lost then s.fail errDeviceInUse "PassThruOpen"
  else
    -- the last session's cable went away; its Close may never come
    let r := opDeviceOpen env.opening (opDeviceClose s.dev)
    let s := { s with dev := r.2 }
    if r.1 ≠ .ok then openFailed s r.1 env.lastDetail else identify env s

/-- Whether a device id names the open device. -/
def deviceOpen (d : OpDevice) (deviceID : UInt64) : Bool := d.opened && deviceID == opDeviceId

/-- `PassThruClose`. -/
def passThruClose (env : CallEnv) (s : Driver) (deviceID : UInt64) : Ret Unit :=
  let s := s.errClear
  if !deviceOpen s.dev deviceID then s.fail errInvalidDeviceId "PassThruClose"
  else
    -- `atz` stops every periodic message, closes every channel and releases every pin
    let r := simpleCmd (env.exchange 0) s.dev opCmdReset [] opDefaultCmdMs
    { s with dev := opDeviceClose r.2.2 }.failed r.1 "PassThruClose: reset"

/-- `OP_DLL_VERSION` and `OP_API_VERSION`. -/
def opDllVersion : Bytes := ascii "openport-j2534 0.4.2"
def opApiVersion : Bytes := ascii "04.04"

/-- `PassThruReadVersion`: firmware, library and interface version, each at most 79 bytes. -/
def passThruReadVersion (s : Driver) (deviceID : UInt64)
    (pFirmwareVersion pDllVersion pApiVersion : Bool) : Ret (Bytes × Bytes × Bytes) :=
  let s := s.errClear
  if !deviceOpen s.dev deviceID then s.fail errInvalidDeviceId "PassThruReadVersion"
  else if s.dev.lost then s.fail errDeviceNotConnected "PassThruReadVersion"
  else if !pFirmwareVersion || !pDllVersion || !pApiVersion then
    s.fail errNullParameter "PassThruReadVersion"
  else
    let firmware := if s.dev.fwVersion ≠ [] then s.dev.fwVersion else ascii "unknown"
    s.done (some (firmware.take 79, opDllVersion.take 79, opApiVersion.take 79))

/-- `PassThruGetLastError`. -/
def passThruGetLastError (s : Driver) (pErrorDescription : Bool) : Ret String :=
  if !pErrorDescription then ⟨errNullParameter, none, s⟩ else s.done (some s.errGet)

/-! ## 2. Channels -/

/-- A pin a channel of this protocol drives and that is shorted to ground, the lowest. -/
def groundedPin (d : OpDevice) (protocolID : UInt64) : Option Nat :=
  (List.range 32).find? fun pin =>
    d.pinsGrounded &&& pinBit (UInt64.ofNat pin) != 0 && protocolUsesPin protocolID
      (UInt64.ofNat pin)

/-- `PassThruConnect` from its command on: the channel is opened here once the cable has it open. -/
def connectOn (env : CallEnv) (s : Driver) (fw : Fin 10) (protocolID flags baudRate : UInt64) :
    Ret UInt64 :=
  let line := opCmdOpen fw.val flags.toUInt32 baudRate.toUInt32
  if line = [] then s.fail errFailed "PassThruConnect: command too long"
  else
    let r := simpleCmd (env.exchange 0) s.dev line [] opDefaultCmdMs
    if r.1 ≠ statusNoerror then { s with dev := r.2.2 }.fail r.1 "PassThruConnect"
    else
      let o := opDeviceOpenChannel r.2.2 fw env.mem protocolID.toUInt32
      if o.1 ≠ .ok then
        -- the firmware has it open; close it or the next Connect gets `are 20`
        let c := simpleCmd (env.exchange 1) o.2 (opCmdClose fw.val) [] opDefaultCmdMs
        { s with dev := c.2.2 }.failText
          errFailed "PassThruConnect: no memory for the receive queue"
      else { s with dev := o.2 }.done (some (UInt64.ofNat fw.val))

/-- `PassThruConnect`. -/
def passThruConnect (env : CallEnv) (s : Driver) (deviceID protocolID flags baudRate : UInt64)
    (pChannelID : Bool) : Ret UInt64 :=
  let s := s.errClear
  if !deviceOpen s.dev deviceID then s.fail errInvalidDeviceId "PassThruConnect"
  else if !pChannelID then s.fail errNullParameter "PassThruConnect(pChannelID)"
  else
    match opProtocolChannel protocolID with
    | none => s.fail errInvalidProtocolId "PassThruConnect"
    | some fw =>
      if (s.dev.ch fw).isOpen then s.fail errChannelInUse "PassThruConnect"
      else
        match (linePartner fw).filter fun p => (s.dev.ch p).isOpen with
        | some partner => s.failText errChannelInUse
            ("PassThruConnect: channel " ++ toString partner.val ++ " holds the same line")
        | none =>
          if baudRate = 0 then s.fail errInvalidBaudrate "PassThruConnect"
          else
            match groundedPin s.dev protocolID with
            | some pin => s.failText errChannelInUse
                ("PassThruConnect: pin " ++ toString pin ++ " is shorted to ground")
            | none => connectOn env s fw protocolID flags baudRate

/-- `PassThruDisconnect`. -/
def passThruDisconnect (env : CallEnv) (s : Driver) (channelID : UInt64) : Ret Unit :=
  let s := s.errClear
  if !s.dev.opened then s.fail errInvalidDeviceId "PassThruDisconnect"
  else
    match channelOf s.dev channelID with
    | none => s.fail errInvalidChannelId "PassThruDisconnect"
    | some i =>
      -- `atc` stops the channel's periodic messages and drops its filters
      let r := simpleCmd (env.exchange 0) s.dev (opCmdClose i.val) [] opDefaultCmdMs
      { s with dev := opDeviceCloseChannel r.2.2 i }.failed r.1 "PassThruDisconnect"

end Openport
