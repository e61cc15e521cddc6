/-
  File:      Openport/Trace/Recorder.lean
  Subject:   Call recording in `src/op_j2534.c` (`rec_hex`, `rec_msg`, `rec_line`,
             `rec_msgs`), as the entry points that open, connect, write, and start
             and stop periodic messages and filters use it.

  A recording is the bytes of its lines. Each entry point writes its line before it
  checks anything, and one that gives out an id writes a line with it behind.
-/
import Openport.Api.Calls
import Openport.Lib.Text

namespace Openport

open Lib.Decimal Lib.Text

/-! ## 1. Lines -/

/-- `%lu`, each behind a space. -/
def printLus (vs : List UInt64) : Bytes := vs.flatMap fun v => 0x20 :: decimal v.toNat

/-- `rec_hex`. -/
def recHex (d : Bytes) : Bytes := if d = [] then ascii "-" else d.flatMap hexByte

/-- `rec_line` with a format of a word and numbers. -/
def recLine (word : String) (vs : List UInt64) : Bytes := ascii word ++ printLus vs ++ [lf]

/-- The id a call gives its caller. -/
def Call.given (env : CallEnv) (s : Driver) : Call → Option UInt64
  | .passThruOpen p => (Openport.passThruOpen env s p).out
  | .passThruConnect id protocolID flags baud p =>
    (Openport.passThruConnect env s id protocolID flags baud p).out
  | .passThruStartPeriodicMsg ch m p interval =>
    (Openport.passThruStartPeriodicMsg env s ch m p interval).out
  | .passThruStartMsgFilter ch type mask pattern flow p =>
    (Openport.passThruStartMsgFilter env s ch type mask pattern flow p).out
  | _ => none

/-- A call as it was recorded: its line, and the id it gave, where it gave one. -/
structure Taped where
  call : Call
  line : Bytes
  id : Option UInt64

/-- What it leaves in the recording. -/
def Taped.text (t : Taped) : Bytes :=
  t.line ++ match t.id with
    | none => []
    | some id => recLine "=" [id]

/-- The word a line begins with. -/
def Call.verb : Call → String
  | .passThruOpen _ => "open"
  | .passThruConnect .. => "connect"
  | .passThruWriteMsgs .. => "write"
  | .passThruStartPeriodicMsg .. => "startp"
  | .passThruStopPeriodicMsg .. => "stopp"
  | .passThruStartMsgFilter .. => "filter"
  | .passThruStopMsgFilter .. => "stopf"
  | _ => ""

/-- The numbers behind it. -/
def Call.args : Call → List UInt64
  | .passThruConnect id protocolID flags baud _ => [id, protocolID, flags, baud]
  | .passThruWriteMsgs ch _ pNumMsgs timeout => [ch, pNumMsgs.getD 0, timeout]
  | .passThruStartPeriodicMsg ch _ _ interval => [ch, interval]
  | .passThruStopPeriodicMsg ch id => [ch, id]
  | .passThruStartMsgFilter ch type .. => [ch, type]
  | .passThruStopMsgFilter ch id => [ch, id]
  | _ => []

/-- The messages behind those; `none` is one that is NULL. -/
def Call.messages : Call → List (Option PassThruMsg)
  | .passThruWriteMsgs _ (some f) pNumMsgs _ =>
    (List.range (min (pNumMsgs.getD 0).toNat 64)).map fun j => some (f j)
  | .passThruStartPeriodicMsg _ (some m) _ _ => [some m]
  | .passThruStartMsgFilter _ _ mask pattern flow _ => [mask, pattern, flow]
  | _ => []

/-- A number as a word. -/
def numeral (v : UInt64) : Bytes := decimal v.toNat

/-- A message as words. -/
def msgWords : Option PassThruMsg → List Bytes
  | none => [ascii "-", ascii "-", ascii "-"]
  | some m => [numeral m.protocolID, numeral m.txFlags, recHex (m.bytes m.size)]

/-- All words of a line. -/
def Call.words (c : Call) : List Bytes :=
  ascii c.verb :: (c.args.map numeral ++ c.messages.flatMap msgWords)

end Openport
