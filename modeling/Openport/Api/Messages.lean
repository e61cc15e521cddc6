/-
  File:      Openport/Api/Messages.lean
  Subject:   The entry points that move messages (`src/op_j2534.c`):
             `PassThruReadMsgs`, `PassThruWriteMsgs` with `msg_ok` and
             `write_one`, periodic messages, and filters.

  A message array is a function from its index; the caller's count says how
  much of it is there. A `long` is an `Int`: `(long)Timeout` is written out, and
  what is left of it passes below a `long` only for a Timeout next to 2 ^ 63, of
  which C says nothing. `PassThruReadMsgs` may wait any number of times, so its
  loop has fuel and gives `none` while it is still waiting.
-/
import Openport.Api.Driver

namespace Openport

/-! ## 1. Reading -/

/-- `(long)v`: the value of a 64-bit word read as signed. -/
def asLong (v : UInt64) : Int := if v.toNat < 2 ^ 63 then v.toNat else (v.toNat : Int) - 2 ^ 64

/-- The wait one turn of the read loop asks for, in milliseconds: what is left of the Timeout,
    held at the largest `unsigned`. -/
def readWait (timeout : UInt64) (elapsed : Int) : UInt32 :=
  if elapsed.toNat < timeout.toNat then UInt32.ofNat
    (min (timeout.toNat - elapsed.toNat) 0xFFFFFFFF)
  else 0

/-- How the read loop ended. -/
structure ReadLoop where
  got : List PassThruMsg
  /-- the wait ended because the cable is lost or the device closed -/
  closed : Bool
  dev : OpDevice

/-- The loop of `PassThruReadMsgs`: `turn` turns are done, `got` is what they popped. -/
def readLoop (env : CallEnv) (i : Fin 10) (want timeout : UInt64) :
    Nat → Nat → List PassThruMsg → OpDevice → Option ReadLoop
  | 0, _, _, _ => none
  | fuel + 1, turn, got, d =>
    let remaining := readWait timeout (elapsedMs (env.clock 0) (env.clock (turn + 1)))
    let p := opDevicePop (arrivals d (env.wait turn)) i
    match p.1, p.2.1 with
    | .ok, some m =>
      if want.toNat ≤ got.length + 1 then some ⟨got ++ [m], false, p.2.2⟩
      else readLoop env i want timeout fuel (turn + 1) (got ++ [m]) p.2.2
    | .timeout, _ =>
      if remaining = 0 then some ⟨got, false, p.2.2⟩
      else readLoop env i want timeout fuel (turn + 1) got p.2.2
    | _, _ => some ⟨got, true, p.2.2⟩

/-- `PassThruReadMsgs` behind its loop: what was dropped, what is missing. -/
def readEnd (s : Driver) (i : Fin 10) (want timeout : UInt64) (r : ReadLoop) :
    Ret (List PassThruMsg) :=
  if r.closed then
    let s := { s with dev := r.dev }
    (if s.dev.opened then s.fail errDeviceNotConnected "PassThruReadMsgs: cable lost"
      else s.fail errInvalidDeviceId "PassThruReadMsgs: device closed" : Ret _).writing r.got
  else
    let t := opDeviceTakeDropped r.dev i
    let s := { s with dev := t.2 }
    (if 0 < t.1 then
        s.failText errBufferOverflow ("PassThruReadMsgs: " ++ toString t.1.toNat ++
          " message(s) dropped; the receive queue overran. Read more often or in larger batches.")
      else if r.got = [] then
        s.failText errBufferEmpty
          ("PassThruReadMsgs: no messages within " ++ toString timeout.toNat ++ " ms")
      else if timeout ≠ 0 ∧ r.got.length < want.toNat then
        s.failText errTimeout ("PassThruReadMsgs: " ++ toString r.got.length ++ " of " ++
          toString want.toNat ++ " message(s) within " ++ toString timeout.toNat ++ " ms")
      else s.done none : Ret _).writing r.got

/-- `PassThruReadMsgs`. `pMsg` says whether the array is there; the output is the messages
    written to it, whose number is what `*pNumMsgs` becomes. -/
def passThruReadMsgs (fuel : Nat) (env : CallEnv) (s : Driver) (channelID : UInt64) (pMsg : Bool)
    (pNumMsgs : Option UInt64) (timeout : UInt64) : Option (Ret (List PassThruMsg)) :=
  let s := s.errClear
  if !s.dev.opened then some (s.fail errInvalidDeviceId "PassThruReadMsgs")
  else
    match pNumMsgs with
    | none => some (s.fail errNullParameter "PassThruReadMsgs(pNumMsgs)")
    | some want =>
      if !pMsg && decide (0 < want) then
        some ((s.fail errNullParameter "PassThruReadMsgs(pMsg)").writing [])
      else
        match channelOf s.dev channelID with
        | none => some ((s.fail errInvalidChannelId "PassThruReadMsgs").writing [])
        | some i =>
          if want = 0 then some (s.done (some []))
          else (readLoop env i want timeout fuel 0 [] s.dev).map (readEnd s i want timeout)

/-! ## 2. Writing -/

/-- The sizes a message of this protocol may have. -/
def sizeRange (proto txFlags : UInt64) : Nat × Nat :=
  if proto = can then (4, 12)
  else if proto = iso15765 then
    (if txFlags &&& iso15765AddrType ≠ 0 then 5 else 4,
      if txFlags &&& iso15765AddrType ≠ 0 then 4100 else 4099)
  else (1, j2534MsgDataMax)

/-- `msg_ok`. -/
def msgOk (s : Driver) (i : Fin 10) (m : PassThruMsg) : Ret Unit :=
  let proto := (s.dev.ch i).base
  if opProtocolBase m.protocolID ≠ proto then
    s.failText errMsgProtocolId ("message protocol " ++ toString m.protocolID.toNat ++
      " on a channel of protocol " ++ toString (s.dev.ch i).protocol.toNat)
  else
    let r := sizeRange proto m.txFlags
    if m.dataSize.toNat < r.1 ∨ r.2 < m.dataSize.toNat then
      s.failText errInvalidMsg
        ("message of " ++ toString m.dataSize.toNat ++ " bytes is outside the " ++
        toString r.1 ++ "-" ++ toString r.2 ++ " range this protocol allows")
    else s.done none

/-- The firmware's transmit budget in microseconds: the wait's, and for none the one the vendor's
    library sets. -/
def budgetUs (d : OpDevice) (i : Fin 10) (timeoutMs : UInt32) : UInt32 :=
  if timeoutMs ≠ 0 then (if 4294967 < timeoutMs then 4294967295 else timeoutMs * 1000)
  else if (d.ch i).base = can then 50000
  else if i = 9 then 0
  else 1000000

/-- The bytes of a message that go out behind its line: the first `DataSize`. -/
def PassThruMsg.payload (m : PassThruMsg) : Bytes := m.bytes m.dataSize.toNat

/-- `write_one`. -/
def writeOne (x : Exchange) (s : Driver) (i : Fin 10) (m : PassThruMsg)
    (timeoutMs : UInt32) : Ret Unit :=
  let ok := msgOk s i m
  if ok.code ≠ statusNoerror then ok
  else
    let line := opCmdTransmit i.val m.dataSize.toNat m.txFlags.toUInt32 (budgetUs s.dev i timeoutMs)
    if line = [] then ⟨errInvalidMsg, none, s⟩
    else if timeoutMs = 0 then
      let r := opDeviceSendNowait x s.dev line m.payload
      ⟨opStatusToJ2534 r.1, none, { s with dev := r.2 }⟩
    else
      let r := simpleCmd x s.dev line m.payload timeoutMs
      ⟨r.1, none, { s with dev := r.2.2 }⟩

/-- What is left of a write's budget in milliseconds, a `long`. -/
def remainingMs (timeout : UInt64) (elapsed : Int) : Int := asLong timeout - elapsed

/-- What `write_one` is told to wait: 0 for a Timeout of 0, else `(unsigned)remaining`, the low 32
    bits of what is left. -/
def writeWait (timeout : UInt64) (elapsed : Int) : UInt32 :=
  if timeout = 0 then 0 else UInt32.ofInt (remainingMs timeout elapsed)

/-- The loop of `PassThruWriteMsgs`: `sent` messages are done, at most `fuel` are left. The output
    is what `*pNumMsgs` becomes. -/
def writeLoop (env : CallEnv) (i : Fin 10) (msgs : Nat → PassThruMsg) (want timeout : UInt64) :
    Nat → Nat → Driver → Ret Nat
  | 0, sent, s => s.done (some sent)
  | fuel + 1, sent, s =>
    let elapsed := elapsedMs (env.clock 0) (env.clock (sent + 1))
    if timeout ≠ 0 ∧ remainingMs timeout elapsed ≤ 0 then
      (s.failText errTimeout
        ("PassThruWriteMsgs: " ++ toString sent ++ " of " ++ toString want.toNat ++
        " sent before the " ++ toString timeout.toNat ++ " ms budget expired")).writing sent
    else
      let r := writeOne (env.exchange sent) s i (msgs sent) (writeWait timeout elapsed)
      if r.code ≠ statusNoerror then
        (r.drv.fail r.code "PassThruWriteMsgs").writing sent
      else writeLoop env i msgs want timeout fuel (sent + 1) r.drv

/-- `PassThruWriteMsgs`; the output is what `*pNumMsgs` becomes. -/
def passThruWriteMsgs (env : CallEnv) (s : Driver) (channelID : UInt64)
    (pMsg : Option (Nat → PassThruMsg)) (pNumMsgs : Option UInt64) (timeout : UInt64) : Ret Nat :=
  let s := s.errClear
  if !s.dev.opened then s.fail errInvalidDeviceId "PassThruWriteMsgs"
  else
    match pNumMsgs with
    | none => s.fail errNullParameter "PassThruWriteMsgs(pNumMsgs)"
    | some want =>
      if pMsg.isNone && decide (0 < want) then
        (s.fail errNullParameter "PassThruWriteMsgs(pMsg)").writing 0
      else
        match channelOf s.dev channelID with
        | none => (s.fail errInvalidChannelId "PassThruWriteMsgs").writing 0
        | some i => writeLoop env i (pMsg.getD fun _ => {}) want timeout want.toNat 0 s

/-! ## 3. Periodic messages -/

/-- `OP_PERIODIC_PER_CH`. -/
def opPeriodicPerCh : Nat := 10

/-- `PassThruStartPeriodicMsg`. -/
def passThruStartPeriodicMsg (env : CallEnv) (s : Driver) (channelID : UInt64)
    (pMsg : Option PassThruMsg) (pMsgID : Bool) (timeInterval : UInt64) : Ret UInt64 :=
  let s := s.errClear
  if !s.dev.opened then s.fail errInvalidDeviceId "PassThruStartPeriodicMsg"
  else
    match pMsg, pMsgID with
    | some m, true =>
      match channelOf s.dev channelID with
      | none => s.fail errInvalidChannelId "PassThruStartPeriodicMsg"
      | some i =>
        -- any interval the firmware's microsecond field can carry; 0 it accepts and never sends
        if timeInterval = 0 ∨ 0xFFFFFFFF / 1000 < timeInterval.toNat then
          s.fail errInvalidTimeInterval "PassThruStartPeriodicMsg"
        else
          let ok := msgOk s i m
          if ok.code ≠ statusNoerror then ok.drv.fail ok.code "PassThruStartPeriodicMsg"
          else if opPeriodicPerCh ≤ (s.dev.ch i).periodic.length then
            s.fail errExceededLimit "PassThruStartPeriodicMsg"
          else
            let line := opCmdPeriodicStart i.val (timeInterval.toUInt32 * 1000) m.txFlags.toUInt32
              m.dataSize.toNat
            if line = [] then s.fail errInvalidMsg "PassThruStartPeriodicMsg"
            else
              let r := simpleCmd (env.exchange 0) s.dev line m.payload opDefaultCmdMs
              let s := { s with dev := r.2.2 }
              if r.1 ≠ statusNoerror then s.fail r.1 "PassThruStartPeriodicMsg"
              else
                match r.2.1.filter fun reply => reply.kind == .periodic with
                | none => s.fail errFailed "PassThruStartPeriodicMsg: unexpected reply"
                | some reply =>
                  let c := s.dev.ch i
                  { s with
                    dev := s.dev.setCh i { c with periodic := c.periodic ++ [reply.a] } }.done
                    (some reply.a.toUInt64)
    | _, _ => s.fail errNullParameter "PassThruStartPeriodicMsg"

/-- What `periodic_stop` does to the table: the last entry takes the stopped one's slot. -/
def periodicDrop (ids : List UInt32) (slot : Nat) : List UInt32 :=
  (ids.set slot (ids.getLastD 0)).dropLast

/-- `periodic_stop`. -/
def periodicStop (x : Exchange) (d : OpDevice) (i : Fin 10) (slot : Nat) : Nat × OpDevice :=
  let r := simpleCmd x d (opCmdPeriodicStop i.val ((d.ch i).periodic.getD slot 0)) [] opDefaultCmdMs
  -- gone either way: the device stopped it, or says it no longer exists
  if r.1 = statusNoerror ∨ r.1 = errInvalidMsgId then
    let c := r.2.2.ch i
    (r.1, r.2.2.setCh i { c with periodic := periodicDrop c.periodic slot })
  else (r.1, r.2.2)

/-- `PassThruStopPeriodicMsg`. -/
def passThruStopPeriodicMsg (env : CallEnv) (s : Driver) (channelID msgID : UInt64) : Ret Unit :=
  let s := s.errClear
  if !s.dev.opened then s.fail errInvalidDeviceId "PassThruStopPeriodicMsg"
  else
    match channelOf s.dev channelID with
    | none => s.fail errInvalidChannelId "PassThruStopPeriodicMsg"
    | some i =>
      let ids := (s.dev.ch i).periodic
      let slot := ids.findIdx (· == msgID.toUInt32)
      if slot = ids.length then s.fail errInvalidMsgId "PassThruStopPeriodicMsg"
      else
        let r := periodicStop (env.exchange 0) s.dev i slot
        { s with dev := r.2 }.failed r.1 "PassThruStopPeriodicMsg"

/-! ## 4. Filters -/

/-- `PassThruStartMsgFilter` from its command on: `msgs` are the messages appended, `flags` the
    flags of the one the device transmits. -/
def startFilter (env : CallEnv) (s : Driver) (i : Fin 10) (filterType : UInt64)
    (msgs : List PassThruMsg)
    (flags : UInt64) (each : Nat) : Ret UInt64 :=
  let line := opCmdFilter i.val filterType.toUInt32 flags.toUInt32 each
  if line = [] then s.fail errFailed "PassThruStartMsgFilter: command too long"
  else
    let r := simpleCmd (env.exchange 0) s.dev line (msgs.map fun m => m.bytes each).flatten
      opDefaultCmdMs
    let s := { s with dev := r.2.2 }
    if r.1 ≠ statusNoerror then s.fail r.1 "PassThruStartMsgFilter"
    else
      match r.2.1.filter fun reply => reply.kind == .filter with
      | none => s.fail errFailed "PassThruStartMsgFilter: unexpected reply"
      | some reply => s.done (some reply.a.toUInt64)

/-- `PassThruStartMsgFilter`. -/
def passThruStartMsgFilter (env : CallEnv) (s : Driver) (channelID filterType : UInt64)
    (pMaskMsg pPatternMsg pFlowControlMsg : Option PassThruMsg) (pFilterID : Bool) : Ret UInt64 :=
  let s := s.errClear
  if !s.dev.opened then s.fail errInvalidDeviceId "PassThruStartMsgFilter"
  else
    match channelOf s.dev channelID with
    | none => s.fail errInvalidChannelId "PassThruStartMsgFilter"
    | some i =>
      if !pFilterID then s.fail errNullParameter "PassThruStartMsgFilter(pFilterID)"
      else
        let need := opFilterMsgCount filterType.toUInt32
        if need = 0 then s.fail errInvalidMsg "PassThruStartMsgFilter: filter type"
        else
          match pMaskMsg, pPatternMsg with
          | some mask, some pattern =>
            if need = 3 ∧ pFlowControlMsg.isNone then
              s.fail errNullParameter "PassThruStartMsgFilter(flow control)"
            else
              -- a flow-control message given with a PASS or BLOCK filter is ignored
              let flow := if need = 2 then none else pFlowControlMsg
              let msgs := mask :: pattern :: flow.toList
              let each := mask.dataSize.toNat
              if each = 0 ∨ 255 < each
                then s.fail errInvalidMsg "PassThruStartMsgFilter: mask length"
              else if flow.any fun m => opProtocolBase m.protocolID != (s.dev.ch i).base then
                s.fail errMsgProtocolId "PassThruStartMsgFilter: flow-control protocol"
              else if msgs.any fun m => m.dataSize.toNat != each then
                s.fail errInvalidMsg "PassThruStartMsgFilter: message lengths differ"
              else
                -- the flags are those of the message the device will transmit
                startFilter env s i filterType msgs ((flow.getD mask).txFlags) each
          | _, _ => s.fail errNullParameter "PassThruStartMsgFilter(mask/pattern)"

/-- `PassThruStopMsgFilter`. -/
def passThruStopMsgFilter (env : CallEnv) (s : Driver) (channelID filterID : UInt64) : Ret Unit :=
  let s := s.errClear
  if !s.dev.opened then s.fail errInvalidDeviceId "PassThruStopMsgFilter"
  else
    match channelOf s.dev channelID with
    | none => s.fail errInvalidChannelId "PassThruStopMsgFilter"
    | some i =>
      let r := simpleCmd (env.exchange 0) s.dev (opCmdStopFilter i.val filterID.toUInt32) []
        opDefaultCmdMs
      { s with dev := r.2.2 }.failed r.1 "PassThruStopMsgFilter"

end Openport
