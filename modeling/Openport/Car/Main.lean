/-
  File:      Openport/Car/Main.lean
  Subject:   `main` of the capture tool (`tools/car/car_capture.py`): its options,
             the order of the sections, and `safe_shutdown`.

  The options are what argparse and Python's own conversions make of the command
  line; where a conversion in `main` raises, the option holds `none` for it.
-/
import Openport.Car.Channel
import Openport.Car.Sections

namespace Openport.Car

open Lib Lib.Decimal Lib.Raising Simulator

/-! ## 1. Options -/

/-- The command line. `request` and `klineRequest` are read by `bytes.fromhex`, `tp20Dest` by `int`
    of each part between its commas; `klineVariants` is split at its commas. -/
structure Options where
  tx : Int := 0x7e0
  rx : Int := 0x7e8
  only : Option String := none
  kline : Bool := false
  klineVariants : Option (List String) := none
  unknownVerbs : Bool := false
  request : Option (Option Bytes) := none
  klineInit : Option String := none
  klineRequest : Option Bytes := some []
  noPreflight : Bool := false
  tp20 : Bool := false
  tp20Dest : Option (List Int) := some [0x01, 0x19]
  allowDiagSession : Bool := false
  longRead : Option Int := none
  longReadKline : Option String := none
  klineListen : Bool := false

/-- `ALLOWED_SESSION` under the options. -/
def Options.session (o : Options) : Option UInt8 := if o.allowDiagSession then some 0x89 else none

/-- `live`. -/
def Options.live (o : Options) : Bool :=
  o.request.isSome || o.klineInit.isSome || o.longRead.isSome || o.tp20

/-- `args.only` where it is true: a section is named. -/
def Options.onlyOne (o : Options) : Option String := o.only.filter (· ≠ "")

/-- `need_preflight`. -/
def Options.needPreflight (o : Options) : Bool :=
  !o.noPreflight && (o.live || o.onlyOne.isNone)

/-! ## 2. The run -/

/-- What a conversion of the command line gives, or its ValueError. -/
def converted {α : Type} : Option α → Act α
  | some a => return a
  | none => throw .failed

/-- `safe_shutdown`. -/
def safeShutdown : Act Unit :=
  tryCatch (do
      tell (ascii "atn6 0\r\n") []
      [3, 4, 5, 6].forM fun ch => tell (lineOf "atc" ch []) []
      let _ ← resync)
    fun e => if e = .interrupt then throw e else pure ()

/-- The four live requests of `main`: `--request`, `--kline-init`, `--long-read` and `--tp20`. -/
def liveIso (o : Options) : Act Unit :=
  match o.request with
  | some request =>
    if o.tp20 then pure ()
    else do
      let payload ← converted request
      liveRequest o.tx o.rx payload
  | none => pure ()

def liveInit (o : Options) : Act Unit :=
  match o.klineInit with
  | some name => do
    let payload ← converted o.klineRequest
    liveKline name payload
  | none => pure ()

def liveRead (o : Options) : Act Unit :=
  match o.longRead with
  | some addr => longRead o.tx o.rx addr o.longReadKline
  | none => pure ()

def liveTp20 (o : Options) : Act Unit :=
  if o.tp20 then do
    let dests ← converted o.tp20Dest
    match o.request with
    | some request => do
      let extra ← converted request
      q12Tp20 dests (some extra)
    | none => q12Tp20 dests none
  else pure ()

/-- They are made in this order. -/
def liveAll (o : Options) : Act Unit := do
  liveIso o
  liveInit o
  liveRead o
  liveTp20 o

/-- `sections`, in order, but the ones that need an option of their own and do not have it. -/
def sections (o : Options) : List (String × Act Unit) :=
  [("q7", q7Pins),
    ("q0", q0GenericObd o.rx),
    ("q1", q1ReceivedFrames o.tx o.rx),
    ("q2", if o.kline then q2Kline o.klineVariants else pure ()),
    ("q3", q3Txflags o.tx o.rx),
    ("q8", q8BusErrors),
    ("q9", q9Loopback o.tx o.rx),
    ("q10", q10RawCanListen),
    ("q11", q11ConfigReadback),
    ("q5", if o.unknownVerbs then q5Unknown else pure ()),
    ("q6", q6Protocols)]

/-- A section of the loop: what it raises is printed, a Ctrl-C apart. -/
def runSection (o : Options) (sec : String × Act Unit) : Act Unit :=
  if o.onlyOne.all (· == sec.1) then
    tryCatch sec.2 fun e => if e = .interrupt then throw e else pure ()
  else pure ()

/-- The pre-flight, where one is needed. -/
def preflightNeeded (o : Options) : Act Bool :=
  if o.needPreflight then preflight o.tx o.rx else return true

/-- What `main` does between opening the port and shutting the cable down. -/
def mainBody (o : Options) : Act Nat :=
  if o.klineListen then do
    klineListen
    return 0
  else do
    let ready ← preflightNeeded o
    if ready = false then return 3
    else if o.live then
      tryCatch (do
          liveAll o
          return 0)
        fun e => if e = .refused then return 4 else throw e
    else
      (sections o).forM (runSection o)
      return 0

/-- `main`: its return code. Opening the port makes a call that may raise before anything is
    written, and so does closing it behind the shutdown. -/
def main (o : Options) : Act Nat := do
  if (← get).cable.present = false then return 2
  else
    modify fun s => { s with session := o.session }
    if o.tp20 then unlock tp20SetupId .option else pure ()
    let _ ← sysCall
    lastly
      (tryCatch (mainBody o) fun e => if e = .interrupt then return 130 else throw e)
      do
        safeShutdown
        let _ ← sysCall

/-- A run of the tool under a cable: the tool behind it, however it ended. -/
def run (o : Options) (cable : Cable) : Tool := (main o { cable := cable }).2

end Openport.Car
