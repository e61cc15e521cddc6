/-
  File:      Openport/Api/Calls.lean
  Subject:   The fourteen entry points as one type of calls, and the states they
             lead to.

  Between two calls the reader goes on: a run is any sequence of calls and
  arrivals. A call that has not returned yet is no step.
-/
import Openport.Api.Ioctl
import Openport.Api.Messages
import Mathlib.Logic.Relation

namespace Openport

/-! ## 1. Calls -/

/-- A call with the arguments the caller gives. -/
inductive Call where
  | passThruOpen (pDeviceID : Bool)
  | passThruClose (deviceID : UInt64)
  | passThruConnect (deviceID protocolID flags baudRate : UInt64) (pChannelID : Bool)
  | passThruDisconnect (channelID : UInt64)
  | passThruReadMsgs (channelID : UInt64) (pMsg : Bool) (pNumMsgs : Option UInt64)
    (timeout : UInt64)
  | passThruWriteMsgs (channelID : UInt64) (pMsg : Option (Nat → PassThruMsg))
      (pNumMsgs : Option UInt64) (timeout : UInt64)
  | passThruStartPeriodicMsg (channelID : UInt64) (pMsg : Option PassThruMsg) (pMsgID : Bool)
      (timeInterval : UInt64)
  | passThruStopPeriodicMsg (channelID msgID : UInt64)
  | passThruStartMsgFilter (channelID filterType : UInt64)
      (pMaskMsg pPatternMsg pFlowControlMsg : Option PassThruMsg) (pFilterID : Bool)
  | passThruStopMsgFilter (channelID filterID : UInt64)
  | passThruSetProgrammingVoltage (deviceID pinNumber voltage : UInt64)
  | passThruReadVersion (deviceID : UInt64) (pFirmwareVersion pDllVersion pApiVersion : Bool)
  | passThruGetLastError (pErrorDescription : Bool)
  | passThruIoctl (channelID ioctlID : UInt64) (input : IoctlIn) (output : IoctlOut)

/-- The code a call returns and the driver after it; `none` while `PassThruReadMsgs` still waits
    after `fuel` turns of its loop. -/
def Call.run (fuel : Nat) (env : CallEnv) (s : Driver) : Call → Option (Nat × Driver)
  | .passThruOpen p =>
    let r := Openport.passThruOpen env s p
    some (r.code, r.drv)
  | .passThruClose id =>
    let r := Openport.passThruClose env s id
    some (r.code, r.drv)
  | .passThruConnect id protocol flags baud p =>
    let r := Openport.passThruConnect env s id protocol flags baud p
    some (r.code, r.drv)
  | .passThruDisconnect ch =>
    let r := Openport.passThruDisconnect env s ch
    some (r.code, r.drv)
  | .passThruReadMsgs ch p n timeout =>
    (Openport.passThruReadMsgs fuel env s ch p n timeout).map fun r => (r.code, r.drv)
  | .passThruWriteMsgs ch p n timeout =>
    let r := Openport.passThruWriteMsgs env s ch p n timeout
    some (r.code, r.drv)
  | .passThruStartPeriodicMsg ch m p interval =>
    let r := Openport.passThruStartPeriodicMsg env s ch m p interval
    some (r.code, r.drv)
  | .passThruStopPeriodicMsg ch id =>
    let r := Openport.passThruStopPeriodicMsg env s ch id
    some (r.code, r.drv)
  | .passThruStartMsgFilter ch type mask pattern flow p =>
    let r := Openport.passThruStartMsgFilter env s ch type mask pattern flow p
    some (r.code, r.drv)
  | .passThruStopMsgFilter ch id =>
    let r := Openport.passThruStopMsgFilter env s ch id
    some (r.code, r.drv)
  | .passThruSetProgrammingVoltage id pin voltage =>
    let r := Openport.passThruSetProgrammingVoltage env s id pin voltage
    some (r.code, r.drv)
  | .passThruReadVersion id p1 p2 p3 =>
    let r := Openport.passThruReadVersion s id p1 p2 p3
    some (r.code, r.drv)
  | .passThruGetLastError p =>
    let r := Openport.passThruGetLastError s p
    some (r.code, r.drv)
  | .passThruIoctl ch id input output =>
    let r := Openport.passThruIoctl env s ch id input output
    some (r.code, r.drv)

/-! ## 2. Runs -/

/-- A call returns, or something arrives between two calls. -/
inductive Moves : Driver → Driver → Prop where
  | call (s s' : Driver) (c : Call) (fuel : Nat) (env : CallEnv) (code : Nat) :
      c.run fuel env s = some (code, s') → Moves s s'
  | arrive (s : Driver) (a : Arrival) : Moves s { s with dev := arrive s.dev a }

/-- The states of the driver: those any calls and arrivals lead to from the one it starts in. -/
def Reachable (s : Driver) : Prop := Relation.ReflTransGen Moves {} s

/-- An invariant of the start and of every step holds in every state. -/
theorem Reachable.invariant {P : Driver → Prop} (h0 : P {})
    (hstep : ∀ s s', P s → Moves s s' → P s')
    {s : Driver} (h : Reachable s) : P s := by
  induction h with
  | refl => exact h0
  | tail _ hm ih => exact hstep _ _ ih hm

end Openport
