/-
  File:      Openport/Car/Port.lean
  Subject:   The capture tool on its port (`tools/car/car_capture.py`): its globals,
             the guards `guard_service` and `guard_tx`, and the class `Port`.

  A function of the tool is a program over `Tool` that may raise. The cable and
  the clock are given as what each system call meets, by the number of calls made
  before it: what it raises, what a drain reads, for how many rounds a timed loop
  goes on. Every write the tool makes is kept in `log`, also where the call then
  raises. Texts the tool prints are left out.
-/
import Openport.J2534
import Openport.Car.Frames
import Openport.Lib.Raising

namespace Openport.Car

open Lib Lib.Decimal Lib.Raising

/-! ## 1. The tool and what it meets -/

/-- What a system call raises: an error of its own, or the Ctrl-C that came in it. -/
inductive Fault where
  | failed
  | interrupt
  deriving DecidableEq, Repr

/-- What leaves a function: `Unsafe`, `KeyboardInterrupt`, or any other exception. -/
inductive Raised where
  | refused
  | interrupt
  | failed
  deriving DecidableEq, Repr

/-- Why a CAN id was put in `TP20_EXTRA_TX`: by `--tp20`, or off a setup reply of the module. -/
inductive Why where
  | option
  | setupReply (d : Bytes)
  deriving DecidableEq, Repr

/-- What the log keeps: a write of the tool, its command line and its payload apart, and an id that
    was unlocked. -/
inductive Event where
  | wrote (line payload : Bytes)
  | unlocked (id : Int) (why : Why)
  deriving DecidableEq, Repr

/-- The cable, the operating system and the clock, by the number of the system call. -/
structure Cable where
  present : Bool
  fault : Nat → Option Fault
  reads : Nat → Bytes
  turns : Nat → Nat
  late : Nat → Bool

/-- The fields of a `Tp20` object. -/
structure Tp20Channel where
  dest : Int
  rxId : Option Nat := none
  txId : Option Nat := none
  txSeq : UInt8 := 0
  buf : Bytes := []
  opened : Bool := false
  deriving DecidableEq, Repr

/-- The tool as it runs: `extraTx` is `TP20_EXTRA_TX`, `session` is `ALLOWED_SESSION`, and the log
    has its last event in front. -/
structure Tool where
  cable : Cable
  calls : Nat := 0
  log : List Event := []
  extraTx : List Int := []
  session : Option UInt8 := none
  chan : Tp20Channel := { dest := 1 }

abbrev Act := Prog Raised Tool

/-- A system call: its number, where it returns. -/
def sysCall : Act Nat := do
  let s ← get
  set { s with calls := s.calls + 1 }
  match s.cable.fault s.calls with
  | some .failed => throw .failed
  | some .interrupt => throw .interrupt
  | none => return s.calls

/-- `os.write`. -/
def osWrite (line payload : Bytes) : Act Unit := do
  modify fun s => { s with log := .wrote line payload :: s.log }
  let _ ← sysCall

/-- The rounds a timed loop makes that starts now. -/
def rounds : Act Nat := do
  let s ← get
  return s.cable.turns s.calls

/-- `TP20_EXTRA_TX.add`. -/
def unlock (id : Int) (why : Why) : Act Unit :=
  modify fun s => { s with log := .unlocked id why :: s.log, extraTx := id :: s.extraTx }

/-! ## 2. The guards -/

def safeTxLo : Int := 0x7df

def safeTxHi : Int := 0x7ff

/-- The keys of `SAFE_SERVICES`. -/
def safeServices : List UInt8 :=
  [0x01, 0x02, 0x03, 0x05, 0x06, 0x07, 0x09, 0x0a, 0x18, 0x1a, 0x21, 0x22, 0x23, 0x3e, 0x81, 0x82]

/-- The keys of `FORBIDDEN_SERVICES`. -/
def forbiddenServices : List UInt8 :=
  [0x04, 0x08, 0x10, 0x11, 0x14, 0x27, 0x28, 0x2e, 0x2f, 0x31, 0x34, 0x35, 0x36, 0x37, 0x38, 0x3b,
    0x3d, 0x85, 0x87]

/-- `guard_service`. -/
def guardService (sid : UInt8) (payload : Bytes) : Act Unit := do
  let s ← get
  if sid = 0x10 ∧ s.session ≠ none ∧ 2 ≤ payload.length ∧ payload[1]? = s.session then return
  else if sid ∈ forbiddenServices then throw .refused
  else if sid ∉ safeServices then throw .refused
  else return

/-- `guard_tx`. -/
def guardTx (canId : Int) : Act Unit := do
  let s ← get
  if canId ∈ s.extraTx then return
  else if ¬(safeTxLo ≤ canId ∧ canId ≤ safeTxHi) then throw .refused
  else return

/-- `struct.pack(">I", n)`. -/
def pack (n : Int) : Act Bytes :=
  if 0 ≤ n ∧ n < 2 ^ 32 then return BigEndian.bytes 4 n.toNat else throw .failed

/-! ## 3. The port -/

def crLf : Bytes := [0x0d, 0x0a]

/-- A command line: the verb, the channel, the arguments with a blank before each. -/
def lineOf (verb : String) (ch : Nat) (args : List Nat) : Bytes :=
  ascii verb ++ (decimal ch ++ ((args.map fun n => 0x20 :: decimal n).flatten ++ crLf))

/-- `drain` and `drain_timed`: whatever came until the port went quiet. -/
def drain : Act Bytes := do
  let n ← sysCall
  let s ← get
  return s.cable.reads n

/-- `cmd`: the input flushed, the line with its payload written, the reply drained. -/
def cmd (line payload : Bytes) : Act Bytes := do
  let _ ← sysCall
  osWrite line payload
  drain

/-- `cmd_line`, which returns at the first complete reply line. -/
def cmdLine (line : Bytes) : Act Bytes := do
  let _ ← sysCall
  osWrite line []
  drain

/-- One turn of the loop of `resync`: whether the cable answered. -/
def resyncOnce : Act Bool := do
  osWrite (List.replicate 40 crLf).flatten []
  let _ ← drain
  osWrite (ascii "atz\r\n") []
  let _ ← drain
  let _ ← sysCall
  let _ ← sysCall
  let r ← cmd (ascii "ata\r\n") []
  return (ascii "aro").isPrefixOf r

def resyncTries : Nat → Act Bool
  | 0 => return false
  | n + 1 => do
    if ← resyncOnce then return true else resyncTries n

def resync : Act Bool := resyncTries 6

/-- `CAN_FRAME_PAD`, the TxFlags of every frame `transmit` sends. -/
def canFramePad : Nat := 0x40

/-- `transmit`. -/
def transmit (ch : Nat) (canId : Int) (service : Bytes) : Act Bytes := do
  guardTx canId
  match service with
  | [] => pure ()
  | sid :: _ => guardService sid []
  let id ← pack canId
  let pl := id ++ service
  cmd (lineOf "att" ch [pl.length, canFramePad]) pl

/-- `transmit_kline`: with the vendor's two extra arguments first, and without them where the cable
    rejects the line. -/
def transmitKline (ch : Nat) (header service : Bytes) : Act Bytes := do
  match service with
  | [] => pure ()
  | sid :: _ => guardService sid service
  let pl := header ++ service
  let r ← cmd (lineOf "att" ch [pl.length, 0, 1000000, 1]) pl
  if (ascii "are").isPrefixOf r then
    cmd (lineOf "att" ch [pl.length, 0]) pl
  else return r

end Openport.Car
