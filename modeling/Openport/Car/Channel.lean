/-
  File:      Openport/Car/Channel.lean
  Subject:   The class `Tp20` of the capture tool on its port
             (`tools/car/car_capture.py`), and the section `q12_tp20`.

  The parts that need no port are in Tp20; here they send and drain. A loop until
  a time-out makes as many rounds as the clock gives it: `request` begins its
  time-out anew with every responsePending, so its rounds are those of the whole
  call.
-/
import Openport.Car.Port
import Openport.Car.Tp20

namespace Openport.Car

open Lib Lib.Decimal Lib.Raising Lib.Segments Simulator

/-! ## 1. The wire -/

/-- The raw CAN channel a `Tp20` uses. -/
def tp20Ch : Nat := 5

def setChan (f : Tp20Channel → Tp20Channel) : Act Unit :=
  modify fun s => { s with chan := f s.chan }

/-- `_send`; with `wait` it drains behind the write. -/
def tp20Send (canId : Int) (data : Bytes) (wait : Bool) : Act Unit := do
  guardTx canId
  let id ← pack canId
  let pl := id ++ data
  osWrite (lineOf "att" tp20Ch [pl.length, 0]) pl
  if wait then
    let d ← drain
    setChan fun c => { c with buf := c.buf ++ d }
  else pure ()

/-- `_send` to `self.tx_id`; without one the guard's comparison raises. -/
def sendToModule (data : Bytes) (wait : Bool) : Act Unit := do
  match (← get).chan.txId with
  | some id => tp20Send id data wait
  | none => throw .failed

/-- `_pump` with its drain. -/
def tp20Pump : Act (List (Nat × Bytes)) := do
  let d ← drain
  let s ← get
  let r := pump tp20Ch s.chan.buf d
  setChan fun c => { c with buf := r.2 }
  return r.1

/-- The rounds of `_await`: the first frame of the id that is not empty and meets `pred`. -/
def awaitRounds (rxId : Option Int) (pred : Bytes → Bool) : Nat → Act (Option Bytes)
  | 0 => return none
  | n + 1 => do
    let fs ← tp20Pump
    match fs.find? fun f => decide (rxId = none ∨ rxId = some f.1) && f.2 != [] && pred f.2 with
    | some f => return some f.2
    | none => awaitRounds rxId pred n

/-- `_await`. -/
def awaitFrame (rxId : Option Int) (pred : Bytes → Bool) : Act (Option Bytes) := do
  let n ← rounds
  awaitRounds rxId pred n

/-! ## 2. The channel -/

/-- A channel-parameter response. -/
def paramsAnswer (d : Bytes) : Bool := d.head? == some 0xa1

/-- An answer to a setup. -/
def setupAnswer (d : Bytes) : Bool :=
  decide (7 ≤ d.length) && [0xd0, 0xd6, 0xd7, 0xd8].contains (d.getD 1 0)

/-- The setup forms of one attempt, up to the one the module accepts. `refused` says whether any
    was refused so far. -/
def setupForms (dest : Int) : List Bytes → Bool → Act Bool
  | [], refused => return refused
  | setup :: forms, refused => do
    tp20Send tp20SetupId setup false
    match ← awaitFrame (some (tp20SetupId + dest)) setupAnswer with
    | none => setupForms dest forms refused
    | some d =>
      if d.getD 1 0 ≠ 0xd0 then setupForms dest forms true
      else
        match tp20ParseSetup d with
        | none => setupForms dest forms refused
        | some (rxId, txId) => do
          setChan fun c => { c with rxId := some rxId, txId := some txId }
          unlock txId (.setupReply d)
          return refused

/-- The attempts, each one but the first behind a wait; they end where the channel is open or
    nothing was refused. -/
def setupAttempts (dest : Int) (forms : List Bytes) : List Bool → Bool → Act Unit
  | [], _ => return
  | wait :: attempts, refused => do
    if wait then
      let _ ← sysCall
    let refused ← setupForms dest forms refused
    let s ← get
    if s.chan.txId.isSome ∨ refused = false then return else setupAttempts dest forms attempts refused

/-- `bytes([n, …])` raises for a number that is no byte. -/
def byteOf (n : Int) : Act UInt8 :=
  if 0 ≤ n ∧ n < 256 then return UInt8.ofNat n.toNat else throw .failed

/-- `open`. -/
def tp20Open : Act Bool := do
  let _ ← resync
  let r ← cmd (lineOf "ato" tp20Ch [0, 500000, 0]) []
  if (ascii "aro").isPrefixOf r = false then return false
  else
    let mask ← pack 0
    let _ ← cmd (lineOf "atf" tp20Ch [1, 0, 4]) (mask ++ mask)
    let dest := (← get).chan.dest
    let b ← byteOf dest
    let forms := [[b, 0xc0, 0x00, 0x10, 0x00, 0x03, 0x01], [b, 0xc0, 0x00, 0x03, 0x00, 0x03, 0x01]]
    setupAttempts dest forms [false, true, true] false
    if (← get).chan.txId = none then return false
    else
      sendToModule tp20Params false
      let rxId := (← get).chan.rxId
      match ← awaitFrame (rxId.map Nat.cast) paramsAnswer with
      | none => return false
      | some _ => do
        setChan fun c => { c with opened := true }
        return true

/-- `keepalive`. -/
def keepalive : Act Unit := do
  let s ← get
  if s.chan.opened ∧ s.cable.late s.calls then
    sendToModule [0xa3] false
    let _ ← awaitFrame (s.chan.rxId.map Nat.cast) paramsAnswer
  else pure ()

/-- The data frames of a request, under the numbers from `tx_seq` on. -/
def sendChunks : List (UInt8 × Bytes) → Act Unit
  | [] => return
  | (op, chunk) :: chunks => do
    let seq := (← get).chan.txSeq
    sendToModule ((op ||| (seq &&& 0x0f)) :: chunk) false
    setChan fun c => { c with txSeq := (seq + 1) &&& 0x0f }
    sendChunks chunks

/-- One frame in the loop of `request`: no id is `None`. -/
def frameTurn (rxId : Option Nat) (r : Gathered UInt8) (f : Nat × Bytes) : List Bytes × Turn :=
  match rxId with
  | some id => receiveFrame id r f
  | none => ([], .listen r)

/-- The frames of one pump in that loop, and the frames sent at them. -/
def takeFrames (rxId : Option Nat) (r : Gathered UInt8) : List (Nat × Bytes) → Act Turn
  | [] => return .listen r
  | f :: fs => do
    let t := frameTurn rxId r f
    t.1.forM fun d => sendToModule d false
    match t.2 with
    | .listen r => takeFrames rxId r fs
    | done => return done

/-- The rounds of the loop of `request`. -/
def requestRounds (rxId : Option Nat) : Nat → Gathered UInt8 → Act (Option Bytes)
  | 0, _ => return none
  | n + 1, r => do
    let fs ← tp20Pump
    match ← takeFrames rxId r fs with
    | .listen r => requestRounds rxId n r
    | .closed => do
      setChan fun c => { c with opened := false }
      return none
    | .answer msg => return some msg

/-- `request`. -/
def tp20Request (payload : Bytes) : Act (Option Bytes) := do
  match payload with
  | [] => throw .failed
  | sid :: _ => guardService sid payload
  keepalive
  match tp20Split payload with
  | none => throw .failed
  | some chunks => sendChunks chunks
  let s ← get
  let n ← rounds
  requestRounds s.chan.rxId n {}

/-- `close`: what the disconnect raises is passed over, a Ctrl-C apart. -/
def tp20Close : Act Unit := do
  tryCatch (do
      if (← get).chan.txId ≠ none then sendToModule [0xa8] true else pure ())
    fun e => if e = .interrupt then throw e else pure ()
  let _ ← cmd (lineOf "atc" tp20Ch []) []
  setChan fun c => { c with opened := false }

/-! ## 3. The section -/

/-- The services of `TP20_READS`. -/
def tp20Reads : List Bytes :=
  [[0x1a, 0x9b], [0x1a, 0x91], [0x1a, 0x9c], [0x1a, 0x86], [0x1a, 0x9a], [0x3e]]

/-- The modules are tried in order up to the first that opens a channel. -/
def openFirst : List Int → Act Bool
  | [] => return false
  | dest :: dests => do
    setChan fun _ => { dest := dest }
    if ← tp20Open then return true
    else do
      tp20Close
      openFirst dests

/-- The requests inside the channel. A refused one is passed over; without an answer the next one
    follows; behind an answer only while the channel is open. -/
def readAll : List Bytes → Act Unit
  | [] => return
  | req :: reqs => do
    let resp ← tryCatch (tp20Request req) fun e => if e = .refused then return none else throw e
    if resp ≠ none ∧ (← get).chan.opened = false then return else readAll reqs

/-- `q12_tp20`. -/
def q12Tp20 (dests : List Int) (extra : Option Bytes) : Act Unit := do
  if ← openFirst dests then
    lastly (do
        let s ← get
        let reqs := match s.session with
          | some b => [0x10, b] :: tp20Reads
          | none => tp20Reads
        readAll (reqs ++ (extra.filter (· ≠ [])).toList))
      tp20Close
  else return

end Openport.Car
