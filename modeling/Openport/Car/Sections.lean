/-
  File:      Openport/Car/Sections.lean
  Subject:   The sections of the capture tool but TP2.0 (`tools/car/car_capture.py`):
             `preflight`, `q0` to `q11`, the K-line inits and the live requests.

  The commands are the source's, with their replies where they decide what comes
  next; what is only printed is left out.
-/
import Openport.Car.Port
import Openport.Lib.Text

namespace Openport.Car

open Lib Lib.Decimal Lib.Raising

/-! ## 1. What the sections share -/

/-- The flow-control filter of ISO 15765 from `rx` to `tx`. -/
def flowControl (rx tx : Int) : Act Unit := do
  let mask ← pack 0xffffffff
  let pat ← pack rx
  let fc ← pack tx
  let _ ← cmd (ascii "atf6 3 64 4\r\n") (mask ++ pat ++ fc)

/-- The lines most sections begin with: the ISO 15765 channel and its flow-control filter. -/
def openIso (rx tx : Int) : Act Unit := do
  let _ ← cmd (ascii "ato6 0 500000 0\r\n") []
  flowControl rx tx

/-- A guarded request, and the later frames drained. -/
def ask (canId : Int) (service : Bytes) : Act Unit := do
  let _ ← transmit 6 canId service
  let _ ← drain

/-- `cmd` where nothing hangs on the reply. -/
def tell (line payload : Bytes) : Act Unit := do
  let _ ← cmd line payload

/-! ## 2. Before the sections -/

/-- The white space of `str.split` among the ASCII characters. -/
def isPySpace (c : UInt8) : Bool := c == 0x20 || (0x09 ≤ c && c ≤ 0x0d) || (0x1c ≤ c && c ≤ 0x1f)

/-- The digits `int` reads: single underscores may stand between them. -/
def pyDigits : Bytes → Option Bytes
  | [] => none
  | [c] => if isDigit c then some [c] else none
  | c :: 0x5f :: rest => if isDigit c then (pyDigits rest).map (c :: ·) else none
  | c :: rest => if isDigit c then (pyDigits rest).map (c :: ·) else none

/-- `int` of a token. -/
def pyInt : Bytes → Option Int
  | 0x2b :: rest => (pyDigits rest).map fun ds => (value ds : Int)
  | 0x2d :: rest => (pyDigits rest).map fun ds => -(value ds : Int)
  | t => (pyDigits t).map fun ds => (value ds : Int)

/-- The millivolts in the reply to `atr`, 0 where there are none. -/
def millivolts (r : Bytes) : Int :=
  match ((r.splitOnP isPySpace).filter (· ≠ [])).getLast? with
  | some t => (pyInt t).getD 0
  | none => 0

/-- `preflight`. -/
def preflight (tx rx : Int) : Act Bool := do
  if (← resync) = false then return false
  else
    tell (ascii "ati\r\n") []
    let r ← cmd (ascii "atr 16\r\n") []
    if millivolts r < 11000 then return false
    else
      openIso rx tx
      let _ ← transmit 6 tx [0x3e, 0x00]
      return true

/-! ## 3. ISO 15765 -/

/-- `q0_generic_obd`. -/
def q0GenericObd (rx : Int) : Act Unit := do
  let _ ← resync
  openIso rx 0x7df
  [[0x01, 0x00], [0x01, 0x0c], [0x01, 0x05], [0x09, 0x02]].forM fun svc => ask 0x7df svc

/-- `q1_received_frames`. -/
def q1ReceivedFrames (tx rx : Int) : Act Unit := do
  let _ ← resync
  tell (ascii "ato6 0 500000 0\r\n") []
  let mask ← pack 0xffffffff
  let pat ← pack rx
  let fc ← pack tx
  tell (ascii "atf6 3 64 4\r\n") (mask ++ pat ++ fc)
  [[0x3e, 0x00], [0x22, 0xf1, 0x90], [0x22, 0xf1, 0x8c]].forM fun req => ask tx req
  let _ ← resync
  tell (ascii "ato6 0 500000 0\r\n") []
  tell (ascii "atf6 1 0 4\r\n") (mask ++ pat)
  ask tx [0x22, 0xf1, 0x90]

/-- A frame `q3_txflags` sends: its `att` line has these arguments behind the length. -/
def sendFlagged (tx : Int) (args : List Nat) : Act Unit := do
  let id ← pack tx
  let pl := id ++ [0x3e, 0x00]
  tell (lineOf "att" 6 (pl.length :: args)) pl

/-- The channel opened anew and a frame sent on it. -/
def flaggedTurn (tx rx : Int) (args : List Nat) : Act Unit := do
  let _ ← resync
  openIso rx tx
  sendFlagged tx args

/-- `q3_txflags`, which builds its frames beside `transmit`. -/
def q3Txflags (tx rx : Int) : Act Unit := do
  [0, 0x40, 0x100].forM fun flags => flaggedTurn tx rx [flags]
  flaggedTurn tx rx [64, 1000000, 1]
  sendFlagged tx [64, 1000, 2]

/-- `q5_unknown`. -/
def q5Unknown : Act Unit := do
  let _ ← resync
  tell (ascii "ato6 0 500000 0\r\n") []
  ["atm6\r\n", "atm6 0\r\n", "atm6 0 0\r\n", "atw6\r\n", "atw6 0\r\n", "atx6\r\n",
    "atx6 0\r\n"].forM fun c => tell (ascii c) []

/-- `q6_protocols`. -/
def q6Protocols : Act Unit := do
  let _ ← resync
  ["ato10 0 500000 0\r\n", "ato1 0 500000 0\r\n", "ato11 0 500000 0\r\n", "ato0 0 500000 0\r\n",
    "ato6 0 500000 0 1\r\n"].forM fun c => do
    let r ← cmd (ascii c) []
    if (ascii "aro").isPrefixOf r then
      tell (ascii "atc10\r\n") []
      tell (ascii "atc6\r\n") []
    else pure ()

/-- `q7_pins`. -/
def q7Pins : Act Unit := do
  let _ ← resync
  [0, 6, 9, 11, 12, 13, 14, 15, 16, 17, 18, 20].forM fun pin =>
    tell (ascii "atr " ++ (decimal pin ++ crLf)) []

/-- `q8_bus_errors`. -/
def q8BusErrors : Act Unit := do
  let _ ← resync
  openIso 0x7ff 0x7fe
  [0x7fe, 0x7ff].forM fun target => do
    let _ ← transmit 6 target [0x3e, 0x00]

/-- `q9_loopback`. -/
def q9Loopback (tx rx : Int) : Act Unit := do
  let _ ← resync
  openIso rx tx
  tell (ascii "ats6 3 1\r\n") []
  tell (ascii "atg6 3\r\n") []
  lastly (ask tx [0x3e, 0x00]) do
    tell (ascii "ats6 3 0\r\n") []
    tell (ascii "atc6\r\n") []

/-- `q10_raw_can_listen`. -/
def q10RawCanListen : Act Unit :=
  [0, 0x10000000].forM fun flags => do
    let _ ← resync
    let r ← cmd (lineOf "ato" 5 [flags, 500000, 0]) []
    if (ascii "aro").isPrefixOf r then
      let mask ← pack 0
      tell (ascii "atf5 1 0 4\r\n") (mask ++ mask)
      let _ ← drain
      tell (ascii "atc5\r\n") []
    else pure ()

/-- `q11_config_readback`. -/
def q11ConfigReadback : Act Unit :=
  [(6, "ato6 0 500000 0\r\n"), (4, "ato4 0 10400 0\r\n")].forM fun (proto, line) => do
    let _ ← resync
    let r ← cmd (ascii line) []
    if (ascii "aro").isPrefixOf r then
      ((List.range' 1 0x25) ++ [0x8000]).forM fun pid => tell (lineOf "atg" proto [pid]) []
      tell (lineOf "atc" proto []) []
    else pure ()

/-! ## 4. The K-line -/

/-- A row of `KLINE_INITS`: the init's line and payload, and the configuration set behind `ato`. -/
structure KlineInit where
  name : String
  proto : Nat
  line : String
  payload : Bytes
  config : List (Nat × Nat) := []
  deriving DecidableEq, Repr

/-- `KLINE_INITS`. -/
def klineInits : List KlineInit :=
  [{ name := "five33", proto := 3, line := "atw3 51\r\n", payload := [] },
    { name := "fast33", proto := 4, line := "aty4 4 0\r\n", payload := [0xc1, 0x33, 0xf1, 0x81] },
    { name := "five01", proto := 4, line := "atw4 1\r\n", payload := [] },
    { name := "fast01", proto := 4, line := "aty4 4 0\r\n", payload := [0x81, 0x01, 0xf1, 0x81] },
    { name := "five10", proto := 4, line := "atw4 16\r\n", payload := [] },
    { name := "five01m3", proto := 4, line := "atw4 1\r\n", payload := [], config := [(33, 3)] }]

/-- `EDC16_KWP_ADDR`. -/
def edc16KwpAddr : UInt8 := 0x10

/-- `KLINE_MANUAL`. -/
def klineManual : List (String × UInt8) := [("manual10", edc16KwpAddr), ("manual01", 0x01)]

/-- `KLINE_RAW`. -/
def klineRaw : List (String × UInt8) := [("raw10", edc16KwpAddr), ("raw01", 0x01)]

/-- `ISO9141_NO_CHECKSUM | ISO9141_K_LINE_ONLY`. -/
def rawKline : Nat := 0x200 ||| 0x1000

/-- `kline_vag`. -/
def klineVag (name : String) : Bool := "five01".isPrefixOf name || "fast01".isPrefixOf name

/-- `kline_header`. -/
def klineHeader (proto : Nat) (physical : Bool) (n : Nat) (target : Option UInt8) : Act Bytes :=
  if proto = 3 then return [0x68, 0x6a, 0xf1]
  else if 63 < n then throw .refused
  else return [(if physical then 0x80 else 0xc0) ||| UInt8.ofNat n,
    target.getD (if physical then 0x01 else 0x33), 0xf1]

/-- What is behind the first place a pattern stands at, the pattern included. -/
def findText (pat : Bytes) : Bytes → Option Bytes
  | [] => none
  | c :: rest => if pat.isPrefixOf (c :: rest) then some (c :: rest) else findText pat rest

/-- The kinds of reply `parse_init_reply` tells apart. -/
inductive InitReply where
  | ary
  | arw
  | aro
  | are
  | none
  deriving DecidableEq, Repr

/-- The kind `parse_init_reply` returns. -/
def parseInitReply (r : Bytes) : InitReply :=
  if ((findText (ascii "arw") r).bind findCrLf).isSome then .arw
  else if ((findText (ascii "ary") r).bind findCrLf).isSome then .ary
  else if (findText (ascii "aro") r).isSome then .aro
  else if (findText (ascii "are") r).isSome then .are
  else .none

/-- `kline_init`: whether the init was answered. -/
def klineInit (variant : KlineInit) : Act Bool := do
  let _ ← resync
  let r ← cmd (lineOf "ato" variant.proto [0, 10400, 0]) []
  if (ascii "aro").isPrefixOf r = false then return false
  else
    variant.config.forM fun (param, val) => tell (lineOf "ats" variant.proto [param, val]) []
    tell (lineOf "atf" variant.proto [1, 0, 1]) [0x00, 0x00]
    let r ← cmd (ascii variant.line) variant.payload
    let kind := parseInitReply r
    return kind = .ary ∨ kind = .arw ∨ kind = .aro

/-- `kline_requests`: a refused request is passed over. -/
def klineRequests (proto : Nat) (physical : Bool) (requests : List Bytes) (target : Option UInt8) :
    Act Unit :=
  requests.forM fun svc => do
    tryCatch (do
        let hdr ← klineHeader proto physical svc.length target
        let _ ← transmitKline proto hdr svc)
      fun e => if e = .refused then pure () else throw e
    let _ ← drain

/-- `kline_echo`. -/
def klineEcho : Act Unit := do
  let _ ← resync
  tell (lineOf "ato" 3 [rawKline, 10400, 0]) []
  tell (ascii "ats3 3 1\r\n") []
  tell (ascii "atf3 1 0 1\r\n") [0x00, 0x00]
  let _ ← transmitKline 3 [0x68, 0x6a, 0xf1] [0x01, 0x00]
  let _ ← drain
  tell (ascii "atc3\r\n") []

/-- A frame that is no echo of the cable's own. -/
def answered (r : Bytes) : Bool :=
  (parseFrames r).any fun e => match e with
    | .frame _ _ sts _ _ _ => sts &&& 0x20 == 0
    | _ => false

/-- The tries of `kline_manual_fast`: whether one was answered. -/
def manualTries (target : UInt8) : Nat → Act Bool
  | 0 => return false
  | n + 1 => do
    let _ ← cmdLine (ascii "aty4 0 0\r\n")
    let r ← transmitKline 4 [0x81, target, 0xf1] [0x81]
    let more ← drain
    if answered (r ++ more) then return true else manualTries target n

/-- `kline_manual_fast`. -/
def klineManualFast (target : UInt8) (reads : List Bytes) : Act Unit := do
  let _ ← resync
  tell (ascii "ato4 0 10400 0\r\n") []
  tell (ascii "atf4 1 0 1\r\n") [0x00, 0x00]
  if ← manualTries target 20 then klineRequests 4 true reads (some target) else pure ()
  tell (ascii "atc4\r\n") []

/-- `frame` of `kline_raw_fast`, its header apart: the service with the checksum behind it. -/
def rawFrame (target : UInt8) (svc : Bytes) : Bytes × Bytes :=
  let hdr := [0x80 ||| UInt8.ofNat svc.length, target, 0xf1]
  (hdr, svc ++ [(hdr ++ svc).foldl (· + ·) 0])

/-- The tries of `kline_raw_fast`. -/
def rawTries (target : UInt8) : Nat → Act Bool
  | 0 => return false
  | n + 1 => do
    let _ ← cmdLine (ascii "aty3 0 0\r\n")
    let f := rawFrame target [0x81]
    let r ← transmitKline 3 f.1 f.2
    let more ← drain
    if answered (r ++ more) then return true else rawTries target n

/-- `kline_raw_fast`. -/
def klineRawFast (target : UInt8) (reads : List Bytes) : Act Unit := do
  let _ ← resync
  tell (lineOf "ato" 3 [rawKline, 10400, 0]) []
  tell (ascii "ats3 3 1\r\n") []
  tell (ascii "atf3 1 0 1\r\n") [0x00, 0x00]
  if ← rawTries target 10 then
    reads.forM fun svc => do
      let f := rawFrame target svc
      let _ ← transmitKline 3 f.1 f.2
      let _ ← drain
  else pure ()
  tell (ascii "atc3\r\n") []

/-- The drains of `kline_listen`. -/
def listenRounds : Nat → Act Unit
  | 0 => return
  | n + 1 => do
    let _ ← drain
    listenRounds n

/-- `kline_listen`. -/
def klineListen : Act Unit := do
  let _ ← resync
  tell (lineOf "ato" 3 [rawKline, 10400, 0]) []
  tell (ascii "atf3 1 0 1\r\n") [0x00, 0x00]
  let n ← rounds
  listenRounds n
  tell (ascii "atc3\r\n") []

/-- The reads of `q2_kline` over EOBD. -/
def eobdReads : List Bytes := [[0x01, 0x00], [0x09, 0x02], [0x3e]]

/-- Its reads of a VAG engine. -/
def vagReads : List Bytes :=
  [[0x1a, 0x9b], [0x1a, 0x91], [0x1a, 0x9c], [0x1a, 0x86], [0x1a, 0x9a], [0x3e]]

/-- Whether `q2_kline` tries a variant: all of them, where none are named. -/
def wanted (variants : Option (List String)) (name : String) : Bool :=
  match variants with
  | none | some [] => true
  | some names => names.contains name

/-- One wake-up of `q2_kline` and the reads behind it. -/
def klineVariant (variant : KlineInit) : Act Unit := do
  if ← klineInit variant then
    let physical := klineVag variant.name
    klineRequests variant.proto physical (if physical then vagReads else eobdReads) none
    if physical then
      klineRequests variant.proto physical ([0x81] :: vagReads) (some edc16KwpAddr)
      match (← get).session with
      | some b => klineRequests variant.proto physical ([0x10, b] :: vagReads) none
      | none => pure ()
    else pure ()
  else pure ()
  tell (lineOf "atc" variant.proto []) []

/-- `q2_kline`. -/
def q2Kline (variants : Option (List String)) : Act Unit := do
  klineEcho
  klineInits.forM fun variant =>
    if wanted variants variant.name then klineVariant variant else pure ()
  klineManual.forM fun (name, target) =>
    if wanted variants name then klineManualFast target vagReads else pure ()
  klineRaw.forM fun (name, target) =>
    if wanted variants name then klineRawFast target vagReads else pure ()

/-! ## 5. Live requests -/

/-- `live_request`. -/
def liveRequest (tx rx : Int) (payload : Bytes) : Act Unit := do
  guardTx tx
  match payload with
  | [] => throw .failed
  | sid :: _ => guardService sid []
  let _ ← resync
  openIso rx tx
  ask tx payload
  tell (ascii "atc6\r\n") []

/-- The wake-up of a name, refused where there is none. -/
def initNamed (name : String) : Act KlineInit :=
  match klineInits.find? fun v => v.name == name with
  | some v => return v
  | none => throw .refused

/-- `live_kline`. -/
def liveKline (name : String) (payload : Bytes) : Act Unit := do
  let variant ← initNamed name
  let ok ← klineInit variant
  if ok ∧ payload ≠ [] then
    let reqs := match (← get).session with
      | some b => [[0x10, b], payload]
      | none => [payload]
    klineRequests variant.proto (klineVag name) reqs none
  else pure ()
  tell (lineOf "atc" variant.proto []) []

/-- `addr.to_bytes(3, "big")`. -/
def toBytes3 (addr : Int) : Act Bytes :=
  if 0 ≤ addr ∧ addr < 2 ^ 24 then return BigEndian.bytes 3 addr.toNat else throw .failed

/-- `long_read`. -/
def longRead (tx rx addr : Int) (klineVariant : Option String) : Act Unit := do
  let a ← toBytes3 addr
  let kwp := 0x23 :: (a ++ [0xff])
  let uds := 0x23 :: 0x13 :: (a ++ [0xff])
  guardTx tx
  let _ ← resync
  openIso rx tx
  [kwp, uds].forM fun req => ask tx req
  tell (ascii "atc6\r\n") []
  match klineVariant.filter (· ≠ "") with
  | none => pure ()
  | some name => do
    let variant ← initNamed name
    if ← klineInit variant then
      klineRequests variant.proto (klineVag name) [kwp] none
    else pure ()
    tell (lineOf "atc" variant.proto []) []

end Openport.Car
