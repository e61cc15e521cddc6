/-
  File:      Openport/Simulator/Commands.lean
  Subject:   The commands of the simulated cable (`tests/sim/openport_sim.py`):
             `handle`, `_trailing_seq`, every `_cmd_*` and `_ecu_response`; its timers,
             its periodic threads, and `serve` with them.

  A line is read as `Openport/Proto/Splitter.lean` reads one, so what is left out
  there is left out here. A step of a thread runs to its end: how the interpreter
  may switch inside one is left out.
-/
import Openport.J2534
import Openport.Simulator.Cable

namespace Openport.Simulator

open Lib Lib.Decimal

/-! ## 1. Numbers -/

/-- `ERR_INVALID_IOCTL_VALUE` and `ERR_INVALID_FILTER_ID`; the others are those of `J2534`. -/
def errInvalidIoctlValue : Nat := 0x05
def errInvalidFilterId : Nat := 0x16

/-- `KNOWN_ARGS`: how many arguments a verb is known to take. -/
def knownArgs : List (UInt8 × Nat) :=
  [(0x6f, 3), (0x74, 3), (0x66, 3), (0x6b, 1), (0x67, 1), (0x73, 2), (0x72, 1), (0x76, 2),
    (0x79, 2), (0x77, 1), (0x70, 2), (0x6d, 4), (0x6e, 1), (0x63, 0), (0x6c, 0), (0x61, 0),
    (0x7a, 0), (0x69, 0)]

/-- `CHANNEL_VERBS`, "octfkgslypnm". -/
def channelVerbs : List UInt8 :=
  [0x6f, 0x63, 0x74, 0x66, 0x6b, 0x67, 0x73, 0x6c, 0x79, 0x70, 0x6e, 0x6d]

/-- `_trailing_seq`. -/
def trailingSeq (verb : UInt8) (rest : Bytes) : Option Nat :=
  (knownArgs.lookup verb).bind fun known =>
    let args := if verb ∈ channelVerbs then (splitCh rest).2 else splitArgs rest
    if known < args.length then args.getLast?.bind readNat else none

/-- A reply that ends in the command's number, or in a 0 without one. -/
def Sim.withSeqOrZero (s : Sim) (line : Bytes) : Bytes :=
  if s.seq.isSome then s.withSeq line else line ++ [0x20, 0x30, 0x0d, 0x0a]

/-! ## 2. Channels, pins, configuration -/

/-- The channels that share a line. -/
def sharedLines : List (Nat × Nat) := [(3, 4), (7, 8)]

/-- Whether the line of a channel is taken by the other one on it. -/
def Sim.lineTaken (s : Sim) (ch : Nat) : Bool :=
  sharedLines.any fun p => decide (ch = p.1 ∨ ch = p.2) &&
    ((s.find (some p.1)).isSome || (s.find (some p.2)).isSome)

theorem supported_lt {ch : Nat} (h : ch ∈ supportedProtocols) : ch < 10 := by
  revert ch
  decide

/-- `_cmd_open`. -/
def Sim.cmdOpen (e : Setup) (s : Sim) (rest : Bytes) : Sim :=
  match (splitCh rest).1, (splitCh rest).2 with
  | some ch, a0 :: a1 :: _ :: _ =>
    if h : ch ∈ supportedProtocols then
      if (s.find (some ch)).isSome then s.err e errChannelInUse
      else if s.lineTaken ch then s.err e errInvalidProtocolId
      else
        match readInt a0, readInt a1 with
        | some flags, some baud =>
          ({ s with born := s.born + 1 }.setChannel ⟨ch, supported_lt h⟩
            (.new ch flags baud s.born)).ok e
        | _, _ => s.err e errFailed
    else s.err e errInvalidProtocolId
  | _, _ => s.err e errFailed

/-- `self.channels.pop(ch, None)`. -/
def Sim.dropChannel (s : Sim) (ch : Nat) : Sim :=
  if h : ch < 10 then { s with channels := s.channels.erase ⟨ch, h⟩ } else s

/-- `_cmd_close`. -/
def Sim.cmdClose (e : Setup) (s : Sim) (rest : Bytes) : Sim :=
  match (splitCh rest).1 with
  | none => s.err e errFailed
  | some ch => (s.dropChannel ch).ok e

/-- `_cmd_read_pin`. -/
def Sim.cmdReadPin (e : Setup) (s : Sim) (rest : Bytes) : Sim :=
  match (splitArgs rest).head?.bind readInt with
  | none => s.err e errFailed
  | some pin =>
    match s.pins.lookup pin with
    | none => s.err e errPinInvalid
    | some mv => s.reply e (s.withSeq (0x61 :: 0x72 :: 0x72 :: printArgs [pin, mv]))

/-- `VOLTAGE_PINS` and `GROUND_PINS`. -/
def voltagePins : List Int := [0, 1, 3, 9, 11, 12, 13]
def groundPins : List Int := voltagePins ++ [7, 10, 15]

/-- `VOLTAGE_MIN_MV` and `VOLTAGE_MAX_MV`. -/
def voltageMinMv : Int := 5000
def voltageMaxMv : Int := 20000

/-- What pin 12 reads: the jack, pin 0, drives it too. -/
def Sim.drivePin (s : Sim) (pin mv : Int) : Sim :=
  if pin = 0 ∨ pin = 12 then { s with pins := s.pins.insert 12 mv } else s

/-- `_cmd_voltage`. -/
def Sim.cmdVoltage (e : Setup) (s : Sim) (rest : Bytes) : Sim :=
  match splitArgs rest with
  | a0 :: a1 :: _ =>
    match readInt a0, readInt a1 with
    | some pin, some v =>
      let mv := v % 2 ^ 32
      if mv = 0xFFFFFFFF ∨ mv = 0xFFFFFFFE then
        if pin ∉ groundPins then s.err e errPinInvalid
        else (s.drivePin pin 0).ok e
      else if pin ∉ voltagePins then s.err e errPinInvalid
      else if mv < voltageMinMv then s.err e errOemVoltageTooLow
      else if voltageMaxMv < mv then s.err e errOemVoltageTooHigh
      else ({ s with pins := s.pins.insert 17 mv }.drivePin pin mv).ok e
    | _, _ => s.err e errInvalidMsg
  | _ => s.err e errInvalidMsg

/-- `_cmd_get_config`. -/
def Sim.cmdGetConfig (e : Setup) (s : Sim) (rest : Bytes) : Sim :=
  match s.find (splitCh rest).1, (splitCh rest).2 with
  | some (i, c), a0 :: _ =>
    match readInt a0 with
    | none => s.err e errFailed
    | some param =>
      match c.config.lookup param with
      | none => s.err e errNotSupported
      | some value =>
        s.reply e (s.withSeqOrZero
          (0x61 :: 0x72 :: 0x67 :: (decimal i.val ++ printArgs [param, value])))
  | _, _ => s.err e errFailed

/-- `_cmd_set_config`. -/
def Sim.cmdSetConfig (e : Setup) (s : Sim) (rest : Bytes) : Sim :=
  match s.find (splitCh rest).1, (splitCh rest).2 with
  | some (i, c), a0 :: a1 :: _ =>
    match readInt a0, readInt a1 with
    | some param, some value =>
      if param ∉ c.config then s.err e errNotSupported
      else (s.setChannel i { c with config := c.config.insert param value }).ok e
    | _, _ => s.err e errFailed
  | _, _ => s.err e errFailed

/-! ## 3. Filters -/

/-- The messages a filter of `n` parts appends, each of `each` bytes. -/
def filterMsg (payload : Bytes) (each k : Nat) : Bytes := (payload.drop (k * each)).take each

/-- Filters and periodic messages a channel may have. -/
def perChannel : Nat := 10

/-- `_cmd_filter`. -/
def Sim.cmdFilter (e : Setup) (s : Sim) (rest payload : Bytes) : Sim :=
  match s.find (splitCh rest).1, (splitCh rest).2 with
  | some (i, c), a0 :: a1 :: a2 :: _ =>
    match readInt a0, readInt a1, readInt a2 with
    | some type, some _, some each =>
      if filterParts type = 0 then s.err e errInvalidFilterId
      else if (payload.length : Int) ≠ filterParts type * each then s.err e errInvalidMsg
      else if perChannel ≤ c.filters.entries.length then s.err e errExceededLimit
      else
        let msg := filterMsg payload each.toNat
        let filter : Filter :=
          { type := type, mask := msg 0, pattern := msg 1
            flow := if filterParts type = 3 then some (msg 2) else none }
        let id := s.nextFilterId
        let s := { s with nextFilterId := id + 1 }.setChannel i
          { c with filters := c.filters.insert (id : Int) filter }
        s.reply e (s.withSeqOrZero (0x61 :: 0x72 :: 0x66 :: (decimal i.val ++ printArgs [(id : Int)])))
    | _, _, _ => s.err e errFailed
  | _, _ => s.err e errFailed

/-- `_cmd_stop_filter`. -/
def Sim.cmdStopFilter (e : Setup) (s : Sim) (rest : Bytes) : Sim :=
  match s.find (splitCh rest).1, (splitCh rest).2 with
  | some (i, c), a0 :: _ =>
    match readInt a0 with
    | none => s.err e errFailed
    | some id =>
      if id = -1 then (s.setChannel i { c with filters := ∅ }).ok e
      else if id ∉ c.filters then s.err e errInvalidFilterId
      else (s.setChannel i { c with filters := c.filters.erase id }).ok e
  | _, _ => s.err e errFailed

/-! ## 4. Transmits -/

/-- The id an ECU answers under: the pattern of the first flow-control filter there is. -/
def responseId (filters : List Filter) : Bytes :=
  match filters.find? fun f => f.type == 3 with
  | some f => f.pattern
  | none => [0x00, 0x00, 0x07, 0xe8]

/-- What the ECU answers to a request, the one for `*` where it has none of its own. -/
def Setup.answer (e : Setup) (req : Bytes) : Option Bytes :=
  match e.ecuModel with
  | some model => model req
  | none => (e.ecu req).or (e.ecu [0x2a])

/-- `_ecu_response`. -/
def Sim.ecuResponse (e : Setup) (s : Sim) (i : Fin 10) (payload : Bytes) : Option Bytes :=
  if i.val ∈ klineProtocols then e.answer payload
  else
    let filters := ((s.channels.lookup i).map fun c => c.filters.values).getD []
    (e.answer (payload.drop 4)).map fun resp => responseId filters ++ resp

/-- LOOPBACK, `c.config.get(3)`. -/
def Channel.loopback (c : Channel) : Bool := (c.config.lookup 3).getD 0 != 0

/-- A bit of a Python integer. -/
def intBit (v : Int) (k : Nat) : Bool := v / 2 ^ k % 2 == 1

/-- `threading.Timer(0.01, …).start()`. -/
def Sim.later (s : Sim) (i : Fin 10) (resp : Option Bytes) : Sim :=
  match resp with
  | some resp => { s with timers := s.timers ++ [(i, resp)] }
  | none => s

/-- The malformed frame of `desync_after`. -/
def Sim.desynced (e : Setup) (s : Sim) : Sim :=
  if e.faults.desyncAfter ≠ 0 ∧ e.faults.desyncAfter ≤ s.txCount then
    s.emit [0x61, 0x72, 0x36, 200, 0x00, 0x01, 0x02]
  else s

/-- The echo, where LOOPBACK is on. -/
def Sim.echoed (e : Setup) (s : Sim) (i : Fin 10) (c : Channel) (payload : Bytes) : Option Sim :=
  if c.loopback then s.loopbackEcho e i payload else some s

/-- The indication, where the wire has them. -/
def Sim.indicated (e : Setup) (s : Sim) (i : Fin 10) (payload : Bytes) : Option Sim :=
  if e.wire.txDone then s.txIndication e i.val payload else some s

/-- `_cmd_transmit` once the frame was on the bus: the echo, the reply, and the ECU. -/
def Sim.transmitted (e : Setup) (s : Sim) (i : Fin 10) (c : Channel) (payload : Bytes) :
    Option Sim := do
  let s ← (s.desynced e).echoed e i c payload
  let s ← (s.ok e).indicated e i payload
  let h ← tp20Handle e.tp20Modules e.ecu s.tp20 i.val payload
  let s ← { s with tp20 := h.state }.tp20Send e i.val h.sent
  if h.taken then some s else some (s.later i (s.ecuResponse e i payload))

/-- A request a conforming ECU ignores: fewer than eight data bytes, and not padded. -/
def unpadded (e : Setup) (i : Fin 10) (txflags : Int) (payload : Bytes) : Bool :=
  e.wire.enforceFramePad && decide (i.val = 6) && !intBit txflags 6 && decide (payload.length < 12)

/-- `_cmd_transmit`. A channel that is not open gets an indication and a success. -/
def Sim.cmdTransmit (e : Setup) (s : Sim) (rest payload : Bytes) : Option Sim :=
  match (splitCh rest).1, (splitCh rest).2 with
  | some ch, a0 :: more =>
    match s.find (some ch) with
    | none => (s.txIndication e ch payload).map fun s => s.ok e
    | some (i, c) =>
      if readInt a0 ≠ some (payload.length : Int) then some (s.err e errInvalidMsg)
      else
        let txflags := (more.head?.bind readInt).getD 0
        let s := { s with txCount := s.txCount + 1
                          txLog := s.txLog ++ [Transmit.mk ch payload false] }
        if unpadded e i txflags payload then some (s.ok e)
        else if e.faults.noAck then some (s.err e errTimeout)
        else s.transmitted e i c payload
  | _, _ => some (s.err e errFailed)

/-! ## 5. K-line inits and the pin verb -/

/-- The request of an init: for `atw` the address on its line, where there is one. -/
def initRequest (fiveBaud : Bool) (args : List Bytes) (payload : Bytes) : Bytes :=
  match args.head?.bind readNat with
  | some address => if fiveBaud then [UInt8.ofNat address] else payload
  | none => payload

/-- `_cmd_init`. -/
def Sim.cmdInit (e : Setup) (s : Sim) (rest payload : Bytes) (fiveBaud : Bool) : Sim :=
  match s.find (splitCh rest).1 with
  | none => s.err e errFailed
  | some (i, _) =>
    let request := initRequest fiveBaud (splitCh rest).2 payload
    let resp := if request = [] then none else e.ecu request
    match e.wire.initReply, fiveBaud with
    | .ary, _ =>
      let body := resp.getD []
      s.reply e (0x61 :: 0x72 :: 0x79 :: (decimal i.val ++ printArgs [(body.length : Int)]) ++
        0x0d :: 0x0a :: body)
    | .arw, true =>
      s.reply e (s.withSeq (0x61 :: 0x72 :: 0x77 ::
        (decimal i.val ++ printArgs ((resp.getD []).map fun b => (b.toNat : Int)))))
    | _, _ => (s.ok e).later i resp

/-- `_cmd_pin_verb_p`: it refuses everything. -/
def Sim.cmdPinVerbP (e : Setup) (s : Sim) (rest : Bytes) : Sim :=
  match splitArgs rest with
  | _ :: a1 :: _ =>
    match readInt a1 with
    | none => s.err e errFailed
    | some value => s.err e (if value = 0 then errInvalidIoctlValue else errInvalidMsg)
  | _ => s.err e errFailed

/-! ## 6. Periodic messages -/

/-- `_cmd_periodic_vendor`: a thread of its own sends the message. -/
def Sim.cmdPeriodicVendor (e : Setup) (s : Sim) (rest payload : Bytes) : Sim :=
  match s.find (splitCh rest).1, (splitCh rest).2 with
  | some (i, c), a0 :: _ :: a2 :: a3 :: _ =>
    match readInt a0, readInt a2, readInt a3 with
    | some intervalUs, some txflags, some length =>
      if length ≠ (payload.length : Int) then s.err e errInvalidMsg
      else if perChannel ≤ c.periodic.entries.length then s.err e errExceededLimit
      else
        let id := s.nextPeriodicId
        let thread : Engine := { channel := i, born := c.born, pid := id }
        let s := { s with nextPeriodicId := id + 1, engines := s.engines ++ [thread] }
        let s := s.setChannel i
          { c with periodic := c.periodic.insert (id : Int) ⟨intervalUs, payload, txflags⟩ }
        s.reply e (s.withSeq (0x61 :: 0x72 :: 0x6d :: (decimal i.val ++ printArgs [(id : Int)])))
    | _, _, _ => s.err e errFailed
  | _, _ => s.err e errFailed

/-- `_cmd_clear_periodic`. -/
def Sim.cmdClearPeriodic (e : Setup) (s : Sim) (rest : Bytes) : Sim :=
  match s.find (splitCh rest).1 with
  | none => s.ok e
  | some (i, c) => (s.setChannel i { c with periodic := ∅ }).ok e

/-- `_cmd_periodic_stop`. -/
def Sim.cmdPeriodicStop (e : Setup) (s : Sim) (rest : Bytes) : Sim :=
  match s.find (splitCh rest).1, (splitCh rest).2 with
  | some (i, c), a0 :: _ =>
    match readInt a0 with
    | none => s.err e errFailed
    | some id =>
      if id ∉ c.periodic then s.err e errInvalidMsgId
      else (s.setChannel i { c with periodic := c.periodic.erase id }).ok e
  | _, _ => s.err e errFailed

/-! ## 7. `handle` -/

/-- `s.strip()`. -/
def strip (s : Bytes) : Bytes := (skipSpaces (skipSpaces s).reverse).reverse

/-- `ata` and `atz`: every channel is closed and every voltage output switched off. -/
def Sim.closeAll (s : Sim) : Sim :=
  { s with channels := ∅, nextFilterId := 0, pins := (s.pins.insert 12 0).insert 17 vadjIdleMv }

/-- `FW_VERSION`, "1.17.4877". -/
def fwVersion : Bytes := [0x31, 0x2e, 0x31, 0x37, 0x2e, 0x34, 0x38, 0x37, 0x37]

/-- "ari main code version : ". -/
def versionHead : Bytes :=
  [0x61, 0x72, 0x69, 0x20, 0x6d, 0x61, 0x69, 0x6e, 0x20, 0x63, 0x6f, 0x64, 0x65, 0x20, 0x76, 0x65,
    0x72, 0x73, 0x69, 0x6f, 0x6e, 0x20, 0x3a, 0x20]

/-- The verbs of `handle`. -/
def Sim.command (e : Setup) (s : Sim) (verb : UInt8) (rest payload : Bytes) : Option Sim :=
  if verb = 0x61 ∨ verb = 0x7a then some (s.closeAll.ok e)
  else if verb = 0x69 then some (s.reply e (versionHead ++ fwVersion ++ [0x0d, 0x0a]))
  else if verb = 0x6f then some (s.cmdOpen e rest)
  else if verb = 0x63 then some (s.cmdClose e rest)
  else if verb = 0x72 then some (s.cmdReadPin e rest)
  else if verb = 0x76 then some (s.cmdVoltage e rest)
  else if verb = 0x67 then some (s.cmdGetConfig e rest)
  else if verb = 0x73 then some (s.cmdSetConfig e rest)
  else if verb = 0x66 then some (s.cmdFilter e rest payload)
  else if verb = 0x6b then some (s.cmdStopFilter e rest)
  else if verb = 0x6c then some (s.cmdClearPeriodic e rest)
  else if verb = 0x74 then s.cmdTransmit e rest payload
  else if verb = 0x79 then some (s.cmdInit e rest payload false)
  else if verb = 0x77 then some (s.cmdInit e rest payload true)
  else if verb = 0x70 then some (s.cmdPinVerbP e rest)
  else if verb = 0x6d then some (s.cmdPeriodicVendor e rest payload)
  else if verb = 0x6e then some (s.cmdPeriodicStop e rest)
  else if e.wire.answerUnknown then some (s.ok e)
  else some s

/-- `handle`. What is no command gets silence. -/
def handle (e : Setup) (s : Sim) (line payload : Bytes) : Option Sim :=
  let s := { s with cmdCount := s.cmdCount + 1 }
  if e.faults.disconnectAfter ≠ 0 ∧ e.faults.disconnectAfter ≤ s.cmdCount then
    some { s with closed := true }
  else
    match strip line with
    | 0x61 :: 0x74 :: verb :: rest =>
      { s with seq := trailingSeq verb rest }.command e verb rest payload
    | _ => some s

/-! ## 8. Timers and periodic threads -/

/-- A timer goes off: the `k`-th. -/
def Sim.fire (e : Setup) (s : Sim) (k : Nat) : Option Sim :=
  match s.timers[k]? with
  | none => some s
  | some (i, resp) => { s with timers := s.timers.eraseIdx k }.sendMessage e i resp false

/-- `self.channels.get(ch) is c`, and the entry of the thread's message. -/
def Sim.entryOf (s : Sim) (t : Engine) : Option (Channel × Periodic) :=
  ((s.channels.lookup t.channel).filter fun c => c.born = t.born).bind fun c =>
    (c.periodic.lookup t.pid).map fun p => (c, p)

/-- A message goes out once more, `_periodic_run` behind its sleep. -/
def Sim.periodicSend (e : Setup) (s : Sim) (t : Engine) (c : Channel) (payload : Bytes) :
    Option Sim := do
  let s := { s with txCount := s.txCount + 1
                    txLog := s.txLog ++ [Transmit.mk t.channel.val payload true] }
  let s ← s.echoed e t.channel c payload
  match s.ecuResponse e t.channel payload with
  | none => some s
  | some resp => s.sendMessage e t.channel resp false

/-- A step of the `k`-th thread: it reads its entry and goes to sleep, or wakes and sends what it
    read; it ends where its channel or its message is gone, and at an interval it cannot sleep for.
    What it checks behind the sleep and what it sends are one step. -/
def Sim.turn (e : Setup) (s : Sim) (k : Nat) : Option Sim :=
  match s.engines[k]? with
  | none => some s
  | some t =>
    let ended := { s with engines := s.engines.eraseIdx k }
    match s.entryOf t, t.asleep with
    | none, _ => some ended
    | some (_, p), none =>
      if s.closed ∨ ¬p.Sleeps then some ended
      else some { s with engines := s.engines.set k { t with asleep := some p } }
    | some (c, _), some p =>
      { s with engines := s.engines.set k { t with asleep := none } }.periodicSend e t c p.payload

/-! ## 9. `serve` -/

/-- The cable: what `serve` keeps between two reads, and the simulator. -/
structure Cable where
  splitter : Splitter := {}
  sim : Sim := {}

/-- The bytes of one read, command by command; a cable that is gone reads no more. -/
def Cable.read (e : Setup) (c : Cable) (data : Bytes) : Option Cable :=
  if c.sim.closed then some c
  else
    let sp := serve c.splitter data
    (sp.handled.foldlM (fun s h => handle e s h.line h.payload) c.sim).map fun s =>
      { splitter := { sp with handled := [] }, sim := s }

end Openport.Simulator
