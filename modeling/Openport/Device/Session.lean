/-
  File:      Openport/Device/Session.lean
  Subject:   The reply slot and the command transaction of `src/op_device.c`:
             `stash_reply`, the reader's reads, `cmd_exchange`, `sync_device`,
             `op_device_open`, `op_device_close`.

  What the other thread and the cable do is an argument: an `Arrival` is one
  wakeup of the reader, an `Exchange` what happens around one transaction. The
  functions here are then the source's, with every wait replaced by the arrivals
  that end it.
-/
import Openport.Device.Demux
import Openport.Device.Reassembly
import Openport.Proto.Command

namespace Openport

open Lib.Ring

/-! ## 1. The reply slot -/

/-- Bytes of `reply_text` and of `reply_data`. -/
def replyTextMax : Nat := 192
def replyDataMax : Nat := 255

/-- The tokens of an `arw` reply before the first that is no byte, and whether all are. -/
def keyBytes : List UInt32 → Bytes × Bool
  | [] => ([], true)
  | v :: vs => if 0xFF < v then ([], false) else (v.toUInt8 :: (keyBytes vs).1, (keyBytes vs).2)

/-- The number a reply echoes, as the source reads it: its last trailing token. -/
def OpReply.echoed (r : OpReply) : Option UInt32 := r.tail.getLast?

/-- The first half of `stash_reply`: whether the waiting command may claim this reply. -/
def claims (d : OpDevice) (r : OpReply) : Bool :=
  d.cmdWaiting &&
    !(r.kind == .init && d.cmdVerb != 0x79 && d.cmdVerb != 0x77) &&
    !(d.seqPending != 0 && r.kind != .init && (r.kind == .info || r.echoed != some d.seqPending))

/-- What `d->reply = *r` and the text part of `stash_reply` leave. -/
def stashText (d : OpDevice) (r : OpReply) : OpDevice :=
  let numbered := d.seqPending != 0 && r.kind == .error
  let detail := decide (2 ≤ r.tail.length)
  let r' : OpReply :=
    { r with
      hasDetail := if numbered then detail else r.hasDetail
      detail := if numbered then (if detail then r.tail.headD 0 else 0) else r.detail }
  let d' := { d with replyText := store d.replyText 0 [0] }
  match r.kind, r.text with
  | .info, some text =>
    let text := text.take (replyTextMax - 1)
    { d' with reply := { r' with text := some text }
              replyText := store d'.replyText 0 (text ++ [0]) }
  | _, _ => { d' with reply := { r' with text := none } }

/-- The data part of an `ary` reply. -/
def stashRaw (d : OpDevice) (r : OpReply) (data : Bytes) : OpDevice :=
  if d.seqPending ≠ 0 ∧ r.tail ≠ [] ∧ r.echoed ≠ some d.seqPending then d
  else
    let data := data.take replyDataMax
    { d with replyData := store d.replyData 0 data, reply := { d.reply with data := some data }
             replyValid := true }

/-- The data part of an `arw` reply. -/
def stashKeys (d : OpDevice) (r : OpReply) : OpDevice :=
  let mine := d.seqPending != 0 && r.echoed == some d.seqPending
  if d.seqPending ≠ 0 ∧ ¬mine ∧ 0xFF < r.echoed.getD 0 then d
  else
    let keys := keyBytes (if mine then r.tail.dropLast else r.tail)
    { d with replyData := store d.replyData 0 keys.1
             reply := { d.reply with data := if keys.2 ∧ keys.1 ≠ [] then some keys.1 else none }
             replyValid := true }

/-- `stash_reply`. -/
def stashReply (d : OpDevice) (r : OpReply) : OpDevice :=
  if claims d r then
    let d := stashText d r
    if r.kind = .init ∧ r.bytes ≠ [] then stashRaw d r r.bytes
    else if r.kind = .init ∧ r.tail ≠ [] then stashKeys d r
    else { d with reply := { d.reply with data := none }, replyValid := true }
  else d

/-! ## 2. The reader -/

/-- One turn of the loop in `consume_accum`. -/
def handOn (d : OpDevice) : Handed → OpDevice
  | .frame r => absorbFrame d r
  | .reply r => stashReply d r
  | .desync _ => d

/-- One wakeup of the reader thread: bytes read, or the device gone. -/
inductive Arrival where
  | read (tmp : Bytes)
  | gone
  deriving DecidableEq, Repr

/-- One turn of the loop in `reader_main`. The thread ends when the device is gone. -/
def arrive (d : OpDevice) : Arrival → OpDevice
  | .read tmp =>
    if d.lost then d
    else
      let r := readerRead d.accum tmp
      r.1.foldl handOn { d with accum := r.2 }
  | .gone => { d with lost := true }

def arrivals (d : OpDevice) (as : List Arrival) : OpDevice := as.foldl arrive d

/-! ## 3. A command transaction -/

/-- What happens around one transaction: what arrives before the session is checked, what the
    transport answers to the write, what arrives until the write returns, and what arrives
    until the wait ends. A wait that ends with no reply in the slot ended by its deadline, or
    by the device's disappearance. -/
structure Exchange where
  before : List Arrival := []
  written : OpStatus := .ok
  early : List Arrival := []
  late : List Arrival := []
  deriving DecidableEq, Repr

/-- Bytes of `numbered` in `cmd_exchange`, `OP_CMD_MAX + 16`. -/
def numberedMax : Nat := opCmdMax + 16

/-- The next number, and the counter after it. -/
def takeNumber (d : OpDevice) : UInt32 × OpDevice :=
  (d.seqNext, { d with seqNext := if d.seqNext + 1 < 256 then 256 else d.seqNext + 1 })

/-- The line as it goes out, its number, and the device after numbering; `[]` where the number
    does not fit. -/
def numberLine (d : OpDevice) (line : Bytes) : Bytes × UInt32 × OpDevice :=
  if opCmdIsNumbered line then
    let n := takeNumber d
    (opCmdNumber line numberedMax n.1, n.1, n.2)
  else (line, 0, d)

/-- Claim the reply slot before the command is on the wire. -/
def claimSlot (d : OpDevice) (wait : Bool) (seq : UInt32) (verb : UInt8) : OpDevice :=
  { d with replyValid := false, cmdWaiting := wait, seqPending := seq, cmdVerb := verb }

/-- The end of the wait: what the command returns, the reply it is given, and the slot freed. -/
def collect (d : OpDevice) : OpStatus × Option OpReply × OpDevice :=
  if d.replyValid then (.ok, some d.reply, { d with replyValid := false, cmdWaiting := false })
  else if !d.opened || d.lost then (.noDevice, none, { d with cmdWaiting := false })
  else (.timeout, none, { d with cmdWaiting := false })

/-- Enter a finished transaction into the log. -/
def OpDevice.logged (d : OpDevice) (t : Txn) : OpDevice := { d with log := .txn t :: d.log }

/-- The part of `cmd_exchange` after numbering. -/
def transact (x : Exchange) (d : OpDevice) (line payload : Bytes) (seq : UInt32)
    (timeoutMs : UInt32) (wait : Bool) : OpStatus × Option OpReply × OpDevice :=
  let d := arrivals (claimSlot d wait seq (line.getD 2 0)) x.early
  let r :=
    if x.written ≠ .ok ∨ !wait then (x.written, none, { d with cmdWaiting := false })
    else collect (arrivals d x.late)
  (r.1, r.2.1, r.2.2.logged
    { line := line, payload := payload, seq := seq, waited := wait, timeoutMs := timeoutMs
      written := x.written, result := r.1, reply := r.2.1 })

/-- `cmd_exchange`. -/
def cmdExchange (x : Exchange) (d : OpDevice) (line payload : Bytes) (timeoutMs : UInt32)
    (wait : Bool) : OpStatus × Option OpReply × OpDevice :=
  if line = [] ∨ opCmdMax ≤ line.length ∨ opMsgMax < payload.length then (.param, none, d)
  else
    let timeoutMs := if timeoutMs = 0 then 1000 else timeoutMs
    let d := arrivals d x.before
    if !d.opened || d.lost then (.noDevice, none, d)
    else
      let n := numberLine d line
      if n.1 = [] then (.param, none, n.2.2)
      else transact x n.2.2 n.1 payload n.2.1 timeoutMs wait

/-- `op_device_cmd`. -/
def opDeviceCmd (x : Exchange) (d : OpDevice) (line payload : Bytes) (timeoutMs : UInt32) :
    OpStatus × Option OpReply × OpDevice :=
  cmdExchange x d line payload timeoutMs true

/-- `op_device_send_nowait`. -/
def opDeviceSendNowait (x : Exchange) (d : OpDevice) (line payload : Bytes) : OpStatus × OpDevice :=
  let r := cmdExchange x d line payload 1000 false
  (r.1, r.2.2)

/-! ## 4. Opening and closing -/

/-- The clock, `gettimeofday`. -/
structure Timeval where
  sec : Int
  usec : Int
  deriving DecidableEq, Repr

/-- What an opening meets: the transport, the thread, the clock, the write of the line ends
    before the first command, and the transactions. -/
structure OpenEnv where
  factory : OpStatus := .ok
  threadOk : Bool := true
  clock : Timeval := ⟨0, 0⟩
  lineEnds : OpStatus := .ok
  exchange : Nat → Exchange := fun _ => {}

/-- The reset loop of `sync_device`: up to `tries` more attempts while nothing answers. -/
def syncReset (env : OpenEnv) (d : OpDevice) (attempt : Nat) : Nat → OpStatus × OpDevice
  | 0 => (.timeout, d)
  | tries + 1 =>
    let r := opDeviceCmd (env.exchange attempt) d opCmdReset [] 1000
    if r.1 = .timeout then syncReset env r.2.2 (attempt + 1) tries else (r.1, r.2.2)

/-- `sync_device`. -/
def syncDevice (env : OpenEnv) (d : OpDevice) : OpStatus × OpDevice :=
  if env.lineEnds = .stalled then (.stalled, d)
  else
    let s := syncReset env d 0 3
    let st : OpStatus × OpDevice :=
      if s.1 = .ok then
        let r := opDeviceCmd (env.exchange 3) s.2 opCmdCloseAll [] 1000
        if r.1 = .ok ∧ r.2.1.map (·.kind) ≠ some .ok then (.protocol, r.2.2) else (r.1, r.2.2)
      else s
    if st.1 = .timeout then (.protocol, st.2) else st

/-- `op_device_close`. -/
def opDeviceClose (d : OpDevice) : OpDevice := if d.opened then { d with opened := false } else d

/-- The first number of a session, from the clock: a remainder by 900000 that C takes toward
    zero. -/
def firstNumber (clock : Timeval) : UInt32 :=
  256 + UInt32.ofInt ((clock.sec * 1000 + clock.usec.tdiv 1000).tmod 900000)

/-- A session as `op_device_open` starts it, before the transport is there. -/
def freshSession (d : OpDevice) (clock : Timeval) : OpDevice :=
  { d with
    ch := fun i => (d.ch i).cleared
    pinsGrounded := 0, pinsPowered := 0
    accum := [], replyValid := false, cmdWaiting := false, lost := false
    seqNext := firstNumber clock, seqPending := 0, fwVersion := []
    log := .session :: d.log }

/-- `op_device_open`. -/
def opDeviceOpen (env : OpenEnv) (d : OpDevice) : OpStatus × OpDevice :=
  if d.opened then (.ok, d)
  else
    let d := freshSession d env.clock
    if env.factory ≠ .ok then (env.factory, d)
    else if !env.threadOk then (.io, d)
    else
      let s := syncDevice env { d with opened := true }
      if s.1 = .ok then s else (s.1, opDeviceClose s.2)

end Openport
