/-
  File:      Openport/Proto/Command.lean
  Subject:   The command half of `src/op_proto.c`: `emit`, the `op_cmd_*` encoders,
             `op_cmd_is_numbered`, `op_cmd_number`, `op_filter_msg_count`,
             `op_parse_version`.

  An encoder's format string is a verb letter, the channel right behind it where
  there is one, and arguments after one space each; it is written here as the
  `Command` it prints. An encoder returns the line's bytes, `[]` for the length 0
  of a failure.
-/
import Openport.Proto.Reply

namespace Openport

open Lib.Decimal

/-! ## 1. Printing a command line -/

/-- A command line as a value: `at<verb>[<channel>] <arg> <arg> …`. -/
structure Command where
  verb : UInt8
  channel : Option Nat := none
  args : List Int := []
  deriving DecidableEq, Repr

/-- `%u`, `%lu`, `%zu` and `%ld`. -/
def printInt : Int → Bytes
  | .ofNat n => decimal n
  | .negSucc n => 0x2d :: decimal (n + 1)

/-- The arguments, each after one space. -/
def printArgs : List Int → Bytes
  | [] => []
  | v :: vs => 0x20 :: (printInt v ++ printArgs vs)

def printChannel : Option Nat → Bytes
  | none => []
  | some ch => decimal ch

/-- The line without its CR LF. -/
def Command.text (c : Command) : Bytes :=
  0x61 :: 0x74 :: c.verb :: (printChannel c.channel ++ printArgs c.args)

/-- The line. -/
def Command.line (c : Command) : Bytes := c.text ++ [0x0d, 0x0a]

/-- `emit` into the `OP_CMD_MAX` bytes every caller passes: a line that does not fit with its
    NUL is a failure. -/
def emit (s : Bytes) : Bytes := if opCmdMax ≤ s.length then [] else s

/-- An unsigned argument. -/
def arg (v : UInt32) : Int := v.toNat

/-! ## 2. The encoders -/

/-- "ata\r\n" -/
def opCmdCloseAll : Bytes := emit (Command.line { verb := 0x61 })

/-- "atz\r\n" -/
def opCmdReset : Bytes := emit (Command.line { verb := 0x7a })

/-- "ati\r\n" -/
def opCmdVersion : Bytes := emit (Command.line { verb := 0x69 })

/-- "ato%u %lu %lu 0\r\n" -/
def opCmdOpen (proto : Nat) (flags baud : UInt32) : Bytes :=
  emit (Command.line { verb := 0x6f, channel := some proto, args := [arg flags, arg baud, 0] })

/-- "atc%u\r\n" -/
def opCmdClose (ch : Nat) : Bytes := emit (Command.line { verb := 0x63, channel := some ch })

/-- "atr %u\r\n" -/
def opCmdReadPin (pin : UInt32) : Bytes := emit (Command.line { verb := 0x72, args := [arg pin] })

/-- "atg%u %lu\r\n" -/
def opCmdGetConfig (ch : Nat) (param : UInt32) : Bytes :=
  emit (Command.line { verb := 0x67, channel := some ch, args := [arg param] })

/-- "ats%u %lu %lu\r\n" -/
def opCmdSetConfig (ch : Nat) (param value : UInt32) : Bytes :=
  emit (Command.line { verb := 0x73, channel := some ch, args := [arg param, arg value] })

/-- "att%u %zu %lu %lu\r\n" -/
def opCmdTransmit (ch payloadLen : Nat) (txflags timeoutUs : UInt32) : Bytes :=
  if payloadLen = 0 ∨ opMsgMax < payloadLen then []
  else emit (Command.line { verb := 0x74, channel := some ch
                            args := [(payloadLen : Int), arg txflags, arg timeoutUs] })

/-- "atf%u %lu %lu %zu\r\n"; `eachLen` is the length of one of the appended messages. -/
def opCmdFilter (ch : Nat) (type txflags : UInt32) (eachLen : Nat) : Bytes :=
  if eachLen = 0 ∨ 255 < eachLen then []
  else emit (Command.line { verb := 0x66, channel := some ch
                            args := [arg type, arg txflags, (eachLen : Int)] })

/-- "atk%u %lu\r\n" -/
def opCmdStopFilter (ch : Nat) (filterId : UInt32) : Bytes :=
  emit (Command.line { verb := 0x6b, channel := some ch, args := [arg filterId] })

/-- "atk%u -1\r\n" -/
def opCmdClearFilters (ch : Nat) : Bytes :=
  emit (Command.line { verb := 0x6b, channel := some ch, args := [-1] })

/-- "atl%u\r\n" -/
def opCmdClearPeriodic (ch : Nat) : Bytes :=
  emit (Command.line { verb := 0x6c, channel := some ch })

/-- "atm%u %lu 0 %lu %zu\r\n" -/
def opCmdPeriodicStart (ch : Nat) (intervalUs txflags : UInt32) (payloadLen : Nat) : Bytes :=
  if payloadLen = 0 ∨ opMsgMax < payloadLen then []
  else emit (Command.line { verb := 0x6d, channel := some ch
                            args := [arg intervalUs, 0, arg txflags, (payloadLen : Int)] })

/-- "atn%u %lu\r\n" -/
def opCmdPeriodicStop (ch : Nat) (msgId : UInt32) : Bytes :=
  emit (Command.line { verb := 0x6e, channel := some ch, args := [arg msgId] })

/-- "aty%u %zu 0\r\n" -/
def opCmdFastInit (ch payloadLen : Nat) : Bytes :=
  if 255 < payloadLen then []
  else emit (Command.line { verb := 0x79, channel := some ch, args := [(payloadLen : Int), 0] })

/-- "atw%u %u\r\n" -/
def opCmdFiveBaud (ch : Nat) (address : UInt8) : Bytes :=
  emit (Command.line { verb := 0x77, channel := some ch, args := [(address.toNat : Int)] })

/-! ## 3. Numbers -/

/-- `op_cmd_is_numbered`: every verb but `ati` takes a number. -/
def opCmdIsNumbered (line : Bytes) : Bool :=
  match line with
  | 0x61 :: 0x74 :: verb :: _ => verb != 0 && verb != 0x69
  | _ => false

/-- `op_cmd_number`: the line with " <seq>" before its CR LF, `[]` if it ends in none or does
    not fit `outSz` with its NUL. -/
def opCmdNumber (line : Bytes) (outSz : Nat) (seq : UInt32) : Bytes :=
  let keep := line.length - 2
  let tail := 0x20 :: decimal seq.toNat
  if line.length < 4 ∨ line.drop keep ≠ [0x0d, 0x0a] ∨ outSz < keep + tail.length + 3 then []
  else line.take keep ++ tail ++ [0x0d, 0x0a]

/-- `op_filter_msg_count`. -/
def opFilterMsgCount (filterType : UInt32) : Nat :=
  if filterType = 1 ∨ filterType = 2 then 2
  else if filterType = 3 then 3
  else 0

/-! ## 4. The version reply -/

/-- What follows the last ": " of a text. -/
def afterLastColon : Bytes → Option Bytes
  | c :: d :: rest =>
    match afterLastColon (d :: rest) with
    | some s => some s
    | none => if c = 0x3a ∧ d = 0x20 then some rest else none
  | _ => none

/-- `op_parse_version`: what is written to `out`, and whether it is a version. -/
def opParseVersion (text : Option Bytes) (outSz : Nat) : Bool × Bytes :=
  match text.bind afterLastColon with
  | none => (false, [])
  | some s =>
    let trimmed := ((skipSpaces s).reverse.dropWhile fun c =>
      c == 0x0d || c == 0x0a || c == 0x20).reverse
    let out := trimmed.take (outSz - 1)
    (!out.isEmpty, out)

/-- The vendor's captured transmit: `att6 8 64 5000000` with number 300. -/
example : opCmdNumber (opCmdTransmit 6 8 64 5000000) 80 300 =
    [0x61, 0x74, 0x74, 0x36, 0x20, 0x38, 0x20, 0x36, 0x34, 0x20, 0x35, 0x30, 0x30, 0x30, 0x30, 0x30,
      0x30, 0x20, 0x33, 0x30, 0x30, 0x0d, 0x0a] := by decide

/-! ## 5. How long a line gets -/

theorem printArgs_length {vs : List Int} (h : ∀ v ∈ vs, (printInt v).length ≤ 10) :
    (printArgs vs).length ≤ 11 * vs.length := by
  induction vs with
  | nil => exact Nat.zero_le _
  | cons v vs ih =>
      have hv := h v List.mem_cons_self
      have hvs := ih fun w hw => h w (List.mem_cons_of_mem v hw)
      have hsplit : (printArgs (v :: vs)).length =
          (printInt v).length + (printArgs vs).length + 1 := by
        show (0x20 :: (printInt v ++ printArgs vs)).length = _
        rw [List.length_cons, List.length_append]
      rw [hsplit, List.length_cons]
      omega

theorem printInt_arg (v : UInt32) : (printInt (arg v)).length ≤ 10 :=
  decimal_length_le (by decide) (Nat.lt_trans v.toNat_lt (by decide))

theorem Command.line_length (c : Command) :
    c.line.length = (printChannel c.channel).length + (printArgs c.args).length + 5 := by
  unfold Command.line Command.text
  simp only [List.length_append, List.length_cons, List.length_nil]

end Openport
