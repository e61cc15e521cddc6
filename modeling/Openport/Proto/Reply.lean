/-
  File:      Openport/Proto/Reply.lean
  Subject:   The reply half of `src/op_proto.c`: `op_reply`, `op_parse` and what it
             calls, `op_resync_offset`.

  A buffer is the list of its bytes, so a function that takes `body + i` takes
  the list without its first `i` bytes, and every read is a pattern match on a
  byte that is there. Pointers into the buffer (`text`, `data`) are the bytes
  they point at, `none` for NULL; `ntail` is the length of `tail`.
-/
import Openport.Lib.Decimal

namespace Openport

open Lib.Decimal

abbrev Bytes := List UInt8

/-- Longest command line the driver ever emits, `OP_CMD_MAX`. -/
def opCmdMax : Nat := 64

/-- Reassembly ceiling, `OP_MSG_MAX`: one J2534 message. -/
def opMsgMax : Nat := 4128

/-- The longest frame, `OP_FRAME_MAX`: its length field is one byte. -/
def opFrameMax : Nat := 4 + 255

/-- A channel is below `OP_MAX_CHANNELS`, 10; this lets its number be a numeral. -/
instance neZeroMaxChannels : NeZero 10 := ⟨by decide⟩

/-! ## 1. The status byte of a frame -/

def opStsStart : UInt8 := 0x80
def opStsEnd : UInt8 := 0x40
def opStsLoopback : UInt8 := 0x20
def opStsTxInd : UInt8 := 0x10
def opSts29Bit : UInt8 := 0x02
def opStsExtAddr : UInt8 := 0x04

/-- C's truth value of `status & bit`. -/
def hasBit (status bit : UInt8) : Bool := status &&& bit != 0

/-! ## 2. The decoded reply -/

/-- `op_reply_kind`. -/
inductive OpReplyKind where
  | incomplete | ok | error | info | pin | filter | config | frame | init | periodic | junk
  deriving DecidableEq, Repr

/-- `op_reply`. A field the reply's kind does not use is zero, as `memset` leaves it. -/
structure OpReply where
  kind : OpReplyKind
  errorCode : UInt32 := 0
  hasDetail : Bool := false
  detail : UInt32 := 0
  a : UInt32 := 0
  b : UInt32 := 0
  tail : List UInt32 := []
  text : Option Bytes := none
  channel : Nat := 0
  status : UInt8 := 0
  timestampUs : UInt32 := 0
  data : Option Bytes := none
  deriving DecidableEq, Repr

/-- The reply of a buffer that cannot be decided yet. -/
def OpReply.incomplete : OpReply := { kind := .incomplete }

/-- The reply of bytes that are no reply. -/
def OpReply.junk : OpReply := { kind := .junk }

/-- Slots of `op_reply.tail`. -/
def tailMax : Nat := 8

/-! ## 3. Numbers and tokens of a reply line -/

/-- The digit loop of `parse_u32`: `v` is held at `0xFFFFFFFF` after every digit. -/
def parseU32Loop : Nat → Bytes → Nat × Bytes
  | v, [] => (v, [])
  | v, c :: cs =>
    if isDigit c then parseU32Loop (min (v * 10 + digitVal c) 0xFFFFFFFF) cs else (v, c :: cs)

/-- `parse_u32`: the number and what follows it, `none` where the source returns 0. -/
def parseU32 (s : Bytes) : Option (UInt32 × Bytes) :=
  match s with
  | [] => none
  | c :: _ =>
    if isDigit c then
      let r := parseU32Loop 0 s
      some (UInt32.ofNat r.1, r.2)
    else none

/-- `skip_spaces`, as what is left after the spaces. -/
def skipSpaces (s : Bytes) : Bytes := s.dropWhile (· == 0x20)

/-- The token loop of `parse_tail`; every token takes at least one byte off `s`. -/
def parseTailLoop : Nat → Bytes → List UInt32 → List UInt32
  | 0, _, tail => tail
  | fuel + 1, s, tail =>
    match parseU32 (skipSpaces s) with
    | none => tail
    | some (v, rest) =>
      parseTailLoop fuel rest (if tail.length < tailMax then tail ++ [v] else tail)

/-- `parse_tail`: the numeric tokens after a reply's fixed fields, the first eight of them. -/
def parseTail (s : Bytes) : List UInt32 := parseTailLoop s.length s []

/-! ## 4. Reply lines -/

/-- `parse_ascii`: decode the line `body` (after "ar", without its CR LF). -/
def parseAscii (body : Bytes) : OpReply :=
  match body with
  | [] => .junk
  | verb :: s =>
    match verb with
    | 0x6f => -- 'o': aro [<seq>]
      { kind := .ok, tail := parseTail s }
    | 0x65 => -- 'e': are <code> [<detail>] [<seq>]
      match parseU32 (skipSpaces s) with
      | none => .junk
      | some (code, s) =>
        let tail := parseTail s
        { kind := .error, errorCode := code, tail := tail,
          hasDetail := decide (1 ≤ tail.length), detail := tail.headD 0 }
    | 0x69 => -- 'i': ari <text>
      { kind := .info, text := some (skipSpaces s) }
    | 0x72 => -- 'r': arr <pin> <millivolts>
      match parseU32 (skipSpaces s) with
      | none => .junk
      | some (pin, s) =>
        match parseU32 (skipSpaces s) with
        | none => .junk
        | some (mv, s) => { kind := .pin, a := pin, b := mv, tail := parseTail s }
    | 0x6d => -- 'm': arm<ch> <msg_id> [<seq>]
      match parseU32 s with
      | none => .junk
      | some (ch, s) =>
        match parseU32 (skipSpaces s) with
        | none => .junk
        | some (id, s) =>
          { kind := .periodic, channel := ch.toNat, a := id, tail := parseTail s }
    | 0x66 => -- 'f': arf<ch> <filter_id> <detail>
      match parseU32 s with
      | none => .junk
      | some (ch, s) =>
        match parseU32 (skipSpaces s) with
        | none => .junk
        | some (id, s) =>
          { kind := .filter, channel := ch.toNat, a := id, tail := parseTail s }
    | 0x67 => -- 'g': arg<ch> <param> <value> ...
      match parseU32 s with
      | none => .junk
      | some (ch, s) =>
        match parseU32 (skipSpaces s) with
        | none => .junk
        | some (param, s) =>
          match parseU32 (skipSpaces s) with
          | none => .junk
          | some (value, s) =>
            { kind := .config, channel := ch.toNat, a := param, b := value, tail := parseTail s }
    | 0x79 => -- 'y': ary<ch> <len>, then <len> raw bytes
      match parseU32 s with
      | none => .junk
      | some (ch, s) =>
        match parseU32 (skipSpaces s) with
        | none => .junk
        | some (count, s) =>
          if 255 < count then .junk
          else { kind := .init, channel := ch.toNat, a := count, tail := parseTail s }
    | 0x77 => -- 'w': arw<ch> <b> <b> ... [<seq>]
      match parseU32 s with
      | none => .junk
      | some (ch, s) => { kind := .init, channel := ch.toNat, tail := parseTail s }
    | _ => .junk

/-- Where the first CR LF of `s` begins. -/
def findCrLf : Bytes → Option Nat
  | c :: d :: rest =>
    if c = 0x0d ∧ d = 0x0a then some 0 else (findCrLf (d :: rest)).map (· + 1)
  | _ => none

/-- The ASCII branch of `op_parse`; `s` is the buffer after "ar". -/
def opParseLine (s : Bytes) : Nat × OpReply :=
  match findCrLf s with
  | some k =>
    let out := parseAscii (s.take k)
    if out.kind = .init ∧ s.head? = some 0x79 then
      -- `ary` announces how many raw bytes follow the line; they are part of the reply
      let want := out.a.toNat
      if s.length < k + 2 + want then (0, .incomplete)
      else (k + 4 + want, { out with data := some ((s.drop (k + 2)).take want) })
    else (k + 4, out)
  | none => if s.length + 2 > opCmdMax * 4 then (1, .junk) else (0, .incomplete)

/-! ## 5. Binary frames -/

/-- `op_rd_be32`. -/
def opRdBe32 (b0 b1 b2 b3 : UInt8) : UInt32 :=
  (b0.toUInt32 <<< 24) ||| (b1.toUInt32 <<< 16) ||| (b2.toUInt32 <<< 8) ||| b3.toUInt32

/-- `op_frame_has_timestamp`: whether a frame's body begins with the 4-byte timestamp. -/
def opFrameHasTimestamp (channel : Nat) (status : UInt8) (bodyLen : Nat) : Bool :=
  if channel = 5 ∨ channel = 6 then decide (4 ≤ bodyLen)
  else hasBit status (opStsStart ||| opStsEnd) && decide (bodyLen = 4)

/-- The reply of a complete frame: `body` is everything after the status byte. -/
def frameReply (channel : Nat) (status : UInt8) (body : Bytes) : OpReply :=
  match opFrameHasTimestamp channel status body.length, body with
  | true, b0 :: b1 :: b2 :: b3 :: data =>
    { kind := .frame, channel := channel, status := status,
      timestampUs := opRdBe32 b0 b1 b2 b3, data := some data }
  | _, _ => { kind := .frame, channel := channel, status := status, data := some body }

/-- The frame branch of `op_parse`; `s` is the buffer after "ar" and the channel digit. -/
def opParseFrame (channel : Nat) (s : Bytes) : Nat × OpReply :=
  match s with
  | [] => (0, .incomplete)
  | len :: s =>
    let need := 4 + len.toNat
    if s.length < len.toNat then (0, .incomplete)
    else
      match s.take len.toNat with
      | [] => (need, .junk)
      | status :: body => (need, frameReply channel status body)

/-! ## 6. Decoding the first reply of a buffer -/

/-- `op_parse`: how many bytes the first reply takes, 0 to wait for more, and the reply. -/
def opParse (buf : Bytes) : Nat × OpReply :=
  match buf with
  | [] => (0, .incomplete)
  | b0 :: s =>
    if b0 ≠ 0x61 then (1, .junk)
    else
      match s with
      | [] => (0, .incomplete)
      | b1 :: s =>
        if b1 ≠ 0x72 then (1, .junk)
        else
          match s with
          | [] => (0, .incomplete)
          | c :: t => if isDigit c then opParseFrame (digitVal c) t else opParseLine (c :: t)

/-- A third byte `op_resync_offset` takes for the start of a reply. -/
def knownThird (c : UInt8) : Bool :=
  isDigit c || c == 0x6f || c == 0x65 || c == 0x69 || c == 0x72 || c == 0x66 || c == 0x67 ||
    c == 0x79 || c == 0x77 || c == 0x6d

/-- The scan of `op_resync_offset` from one position on: the distance to the first candidate
    with all three bytes present, or the length. -/
def resyncScan : Bytes → Nat
  | b0 :: b1 :: b2 :: rest =>
    if b0 = 0x61 ∧ b1 = 0x72 ∧ knownThird b2 then 0 else resyncScan (b1 :: b2 :: rest) + 1
  | s => s.length

/-- `op_resync_offset`: the next plausible reply boundary after the first byte, or the
    length. -/
def opResyncOffset (buf : Bytes) : Nat :=
  match buf with
  | [] => 0
  | _ :: s => resyncScan s + 1

/-- A captured transmit indication: channel 6, status 0x10, a timestamp and a CAN id. -/
example : opParse [0x61, 0x72, 0x36, 0x09, 0x10, 0x19, 0x50, 0xb8, 0x0c, 0x00, 0x00, 0x07, 0xe0] =
    (13, { kind := .frame, channel := 6, status := 0x10, timestampUs := 0x1950b80c,
           data := some [0x00, 0x00, 0x07, 0xe0] }) := by decide

end Openport
