/-
  File:      Openport/Simulator/Cable.lean
  Subject:   The simulated cable (`tests/sim/openport_sim.py`): `Channel`, `Faults`,
             `Wire`, `OpenPortSim.__init__`, and what it puts out: `_rand`, `_ts`,
             `_emit`, `_reply`, `_with_seq`, `_ok`, `_err`, `_raw_frame`, `frame`,
             `send_message`, `_loopback_echo`, `_tx_indication`, `_tp20_send`.

  A Python dict is Mathlib's `AList`, which holds each key once; the newest entry
  stands first there and last in the dict. What a fault only delays, the log and
  the wake pipe are left out. `none` is an exception, which ends the thread it is
  raised in. Numbers have any length: `int` raises beyond 4300 digits and a float
  beyond 308, which no line of 300 bytes reaches (`Event.Short`).
-/
import Openport.Proto.Splitter
import Openport.Simulator.Tp20
import Mathlib.Data.List.AList

namespace Openport.Simulator

open Lib Lib.Decimal

/-! ## 1. Settings -/

/-- A dict. -/
abbrev Dict (κ ν : Type) : Type := AList fun _ : κ => ν

/-- A dict of these entries. -/
def dictOf {κ ν : Type} [DecidableEq κ] (entries : List (κ × ν)) : Dict κ ν :=
  List.toAList (entries.map fun p => ⟨p.1, p.2⟩)

/-- The values of a dict, in the order their keys were first set. -/
def Dict.values {κ ν : Type} (d : Dict κ ν) : List ν := (d.entries.map Sigma.snd).reverse

/-- `Faults`. -/
structure Faults where
  /-- transmits fail with `ERR_TIMEOUT` -/
  noAck : Bool := false
  /-- a malformed frame from the N-th transmit on, 0 for never -/
  desyncAfter : Nat := 0
  /-- every N-th reply is swallowed, 0 for none -/
  dropReplyEvery : Nat := 0
  truncateFrames : Bool := false
  /-- the pty is closed at the N-th command, 0 for never -/
  disconnectAfter : Nat := 0
  /-- so many random bytes before each reply -/
  garbageBytes : Nat := 0
  deriving DecidableEq, Repr

/-- The values of `Wire.init_reply`. -/
inductive InitAnswer where
  | aro | ary | arw
  deriving DecidableEq, Repr

/-- `Wire`, whole. -/
structure WireSettings extends Wire where
  txDone : Bool := false
  answerUnknown : Bool := false
  enforceFramePad : Bool := true
  initReply : InitAnswer := .aro

/-- What does not change while the simulator runs: the arguments of `OpenPortSim`, the modules that
    answer a TP2.0 setup, and the clock, its `n`-th reading in microseconds. -/
structure Setup where
  ecu : Bytes → Option Bytes := fun _ => none
  /-- `ecu_model`, where there is one -/
  ecuModel : Option (Bytes → Option Bytes) := none
  faults : Faults := {}
  wire : WireSettings := {}
  tp20Modules : List UInt8 := [0x01]
  clock : Nat → UInt32 := fun _ => 0

/-! ## 2. The state -/

/-- `_ISO15765_PARAMS`, `_KLINE_PARAMS` and `_CAN_PARAMS`. -/
def iso15765Params : Dict Int Int :=
  dictOf [(1, 500000), (3, 0), (23, 80), (24, 1), (30, 0), (31, 0), (34, 0), (35, 0), (37, 0)]

def klineParams : Dict Int Int :=
  dictOf [(1, 10400), (3, 0), (7, 20), (10, 55), (12, 5), (14, 300), (15, 20), (16, 20), (17, 50),
    (18, 300), (19, 300), (20, 25), (21, 50), (22, 0), (25, 300), (32, 8), (33, 0), (0x9000, 1)]

def canParams : Dict Int Int := dictOf [(1, 500000), (3, 0), (23, 80), (24, 1)]

/-- `PARAMS_BY_PROTOCOL.get(proto, _CAN_PARAMS)`. -/
def paramsByProtocol (proto : Nat) : Dict Int Int :=
  if proto = 6 then iso15765Params
  else if proto = 3 ∨ proto = 4 ∨ proto = 7 ∨ proto = 8 ∨ proto = 9 then klineParams
  else canParams

/-- A filter: its type, mask, pattern and flow-control message. -/
structure Filter where
  type : Int
  mask : Bytes
  pattern : Bytes
  flow : Option Bytes
  deriving DecidableEq, Repr

/-- A periodic message: the microseconds between two transmits, its bytes, its flags. -/
structure Periodic where
  intervalUs : Int
  payload : Bytes
  txflags : Int
  deriving DecidableEq, Repr

/-- The longest interval `time.sleep` takes, in microseconds: its nanoseconds fit 63 bits. -/
def longestSleepUs : Int := 9223372036854774

/-- `time.sleep` takes the interval; it raises at a negative one and at a longer one. -/
def Periodic.Sleeps (p : Periodic) : Prop := 0 ≤ p.intervalUs ∧ p.intervalUs ≤ longestSleepUs

instance (p : Periodic) : Decidable p.Sleeps := by
  unfold Periodic.Sleeps
  infer_instance

/-- `Channel`; `born` tells one object from the next on the same channel. -/
structure Channel where
  proto : Nat
  flags : Int
  baud : Int
  born : Nat
  config : Dict Int Int
  filters : Dict Int Filter := ∅
  periodic : Dict Int Periodic := ∅

/-- `Channel(proto, flags, baud)`. -/
def Channel.new (proto : Nat) (flags baud : Int) (born : Nat) : Channel :=
  { proto := proto, flags := flags, baud := baud, born := born
    config := (paramsByProtocol proto).insert 1 baud }

/-- `Transmit`, its time left out. -/
structure Transmit where
  channel : Nat
  payload : Bytes
  periodic : Bool
  deriving DecidableEq, Repr

/-- A thread of `_periodic_run`: its arguments, and the entry it sleeps for once it has read it. -/
structure Engine where
  channel : Fin 10
  born : Nat
  pid : Int
  asleep : Option Periodic := none
  deriving DecidableEq, Repr

/-- `VADJ_IDLE_MV`. -/
def vadjIdleMv : Int := 5751

/-- `READABLE_PINS` as the module starts with it. -/
def readablePins : Dict Int Int :=
  dictOf [(8, 0), (12, 0), (16, 12480), (17, vadjIdleMv)]

/-- `OpenPortSim`. A channel that is open is one of `SUPPORTED_PROTOCOLS`, all below ten. -/
structure Sim where
  channels : Dict (Fin 10) Channel := ∅
  pins : Dict Int Int := readablePins
  nextFilterId : Nat := 0
  nextPeriodicId : Nat := 0
  /-- how many `Channel` objects there were -/
  born : Nat := 0
  tp20 : Tp20State := {}
  txCount : Nat := 0
  txLog : List Transmit := []
  cmdCount : Nat := 0
  /-- the number of the command in hand, `_seq` -/
  seq : Option Nat := none
  closed : Bool := false
  rng : UInt64 := 0x2545F4914F6CDD1D
  /-- how often the clock was read -/
  ticks : Nat := 0
  /-- what `_emit` was given, oldest first; `_out` is the rest of it that is not written yet -/
  out : List Bytes := []
  /-- the responses a `threading.Timer` will send -/
  timers : List (Fin 10 × Bytes) := []
  engines : List Engine := []

/-- `self.channels.get(ch)`, with the channel it was found on. -/
def Sim.find (s : Sim) (ch : Option Nat) : Option (Fin 10 × Channel) :=
  ch.bind fun n => if h : n < 10 then (s.channels.lookup ⟨n, h⟩).map fun c => (⟨n, h⟩, c) else none

/-- `self.channels[i] = c`. -/
def Sim.setChannel (s : Sim) (i : Fin 10) (c : Channel) : Sim :=
  { s with channels := s.channels.insert i c }

/-! ## 3. Replies -/

/-- `_emit`. -/
def Sim.emit (s : Sim) (data : Bytes) : Sim := { s with out := s.out ++ [data] }

/-- `_rand`. -/
def rand (rng : UInt64) : UInt8 × UInt64 :=
  let rng := rng ^^^ (rng <<< 13)
  let rng := rng ^^^ (rng >>> 7)
  let rng := rng ^^^ (rng <<< 17)
  (rng.toUInt8, rng)

/-- So many calls of `_rand`. -/
def randBytes : Nat → UInt64 → Bytes × UInt64
  | 0, rng => ([], rng)
  | n + 1, rng =>
    let r := rand rng
    let more := randBytes n r.2
    (r.1 :: more.1, more.2)

/-- `_reply`. A reply that may be dropped is counted like a command. -/
def Sim.reply (e : Setup) (s : Sim) (data : Bytes) : Sim :=
  let every := e.faults.dropReplyEvery
  let s := if every ≠ 0 then { s with cmdCount := s.cmdCount + 1 } else s
  if every ≠ 0 ∧ s.cmdCount % every = 0 then s
  else
    let s :=
      if e.faults.garbageBytes ≠ 0 then
        let r := randBytes e.faults.garbageBytes s.rng
        { s with rng := r.2 }.emit r.1
      else s
    s.emit data

/-- `_with_seq`. -/
def Sim.withSeq (s : Sim) (line : Bytes) : Bytes :=
  match s.seq with
  | some n => line ++ 0x20 :: decimal n ++ [0x0d, 0x0a]
  | none => line ++ [0x0d, 0x0a]

/-- `_ok`, "aro". -/
def Sim.ok (e : Setup) (s : Sim) : Sim := s.reply e (s.withSeq [0x61, 0x72, 0x6f])

/-- `_err`, "are <code>"; no caller gives a detail. -/
def Sim.err (e : Setup) (s : Sim) (code : Nat) : Sim :=
  s.reply e (s.withSeq (0x61 :: 0x72 :: 0x65 :: printArgs [(code : Int)]))

/-! ## 4. Frames -/

/-- `_ts`: the next reading of the clock. -/
def Sim.ts (e : Setup) (s : Sim) : UInt32 × Sim := (e.clock s.ticks, { s with ticks := s.ticks + 1 })

/-- The bytes of a frame, for any channel number. -/
def frameBytes (ch : Nat) (f : SimFrame) : Option Bytes :=
  let body := f.1 :: f.2
  if 255 < body.length then none
  else some (0x61 :: 0x72 :: (decimal ch ++ UInt8.ofNat body.length :: body))

/-- `_raw_frame`. -/
def Sim.rawFrame (e : Setup) (s : Sim) (ch : Nat) (f : SimFrame) : Option Sim :=
  (frameBytes ch f).map fun bytes =>
    s.emit (if e.faults.truncateFrames then bytes.take (max 1 (bytes.length / 2)) else bytes)

/-- One `_raw_frame` after the other. -/
def Sim.rawFrames (e : Setup) (s : Sim) (ch : Nat) (fs : List SimFrame) : Option Sim :=
  fs.foldlM (fun s f => s.rawFrame e ch f) s

/-- `frame`. -/
def Sim.frame (e : Setup) (s : Sim) (ch : Nat) (status : UInt8) (payload : Bytes) : Option Sim :=
  let t := s.ts e
  t.2.rawFrame e ch (status, be32 t.1 ++ payload)

/-- `send_message`: the clock is read once on a K line, else once a frame. -/
def Sim.sendMessage (e : Setup) (s : Sim) (i : Fin 10) (payload : Bytes) (loopback : Bool) :
    Option Sim :=
  let fs := Simulator.sendMessage e.wire.toWire (fun k => e.clock (s.ticks + k)) i payload loopback
  let read := if i.val ∈ klineProtocols then 1 else fs.length
  { s with ticks := s.ticks + read }.rawFrames e i.val fs

/-- `_loopback_echo`. -/
def Sim.loopbackEcho (e : Setup) (s : Sim) (i : Fin 10) (payload : Bytes) : Option Sim :=
  if i.val = 5 ∨ i.val = 6 then s.frame e 5 stsLoopback [0, 0, 0, 0]
  else s.sendMessage e i payload true

/-- `STS_TX_IND`. -/
def stsTxInd : UInt8 := 0x10

/-- `_tx_indication`; the channel may be none the cable has. -/
def Sim.txIndication (e : Setup) (s : Sim) (ch : Nat) (payload : Bytes) : Option Sim :=
  if ch ∈ klineProtocols then s.frame e ch stsTxInd []
  else s.frame e ch stsTxInd (payload.take 4)

/-- `_tp20_send`, one after the other: a CAN id and its data each, on raw CAN. -/
def Sim.tp20Send (e : Setup) (s : Sim) (ch : Nat) (sent : List (Nat × Bytes)) : Option Sim :=
  sent.foldlM (fun s m => s.frame e ch 0x00 (BigEndian.bytes 4 m.1 ++ m.2)) s

end Openport.Simulator
