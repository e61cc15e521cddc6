/-
  File:      Openport/Trace/Replay.lean
  Subject:   `--replay` of `tools/ab-official/j2534_trace.c`: `map_get`, `map_put`,
             `hex_to_bytes`, `parse_msgs`, and `replay`.

  `ulongMax` is the largest `unsigned long` of the build that replays: 2 ^ 64 - 1
  where it drives this driver, 2 ^ 32 - 1 where it drives the vendor's DLL. The
  other library is the id it hands out with its k-th call, 0 where it hands out
  none. What `strtok_r` leaves at the end of a line is the empty rest. Of a call its
  inputs are kept, not where it writes; the verbs of the other entry points are kept
  as one call each.
-/
import Openport.Api.Calls
import Openport.Lib.Text

namespace Openport

open Lib.Text

/-! ## 1. Ids -/

/-- The four id maps. -/
inductive IdKind where
  | dev | ch | filt | per
  deriving DecidableEq, Repr

/-- How many ids a map holds; `MAP_MAX` for filters. -/
def IdKind.cap : IdKind → Nat
  | .dev => 4
  | .ch => 16
  | .filt => 64
  | .per => 16

/-- `map_get`: an id the map does not hold is used as it is. -/
def mapGet : List (Nat × Nat) → Nat → Nat
  | [], recorded => recorded
  | e :: m, recorded => if e.1 = recorded then e.2 else mapGet m recorded

/-- A message as `parse_msgs` fills it in. -/
structure TraceMsg where
  protocolID : Nat := 0
  txFlags : Nat := 0
  data : Bytes := []
  deriving DecidableEq, Repr

/-- A call of the library under test, with its ids and its messages; `none` is a NULL pointer. -/
inductive TraceCall where
  | openDevice
  | connect (dev protocolID flags baudRate : Nat)
  | write (ch : Nat) (msgs : List (Option TraceMsg)) (count : Option Nat) (timeout : Nat)
  | startp (ch : Nat) (msg : Option TraceMsg) (interval : Nat)
  | stopp (ch id : Nat)
  | filter (ch type : Nat) (mask pattern flow : Option TraceMsg)
  | stopf (ch id : Nat)
  | other (verb args : Bytes)
  deriving DecidableEq, Repr

/-- What `replay` carries from line to line. -/
structure Replay where
  maps : IdKind → List (Nat × Nat) := fun _ => []
  msgs : Nat → TraceMsg := fun _ => {}
  last : Option IdKind := none
  lastLive : Nat := 0
  calls : List TraceCall := []

/-- A call is made. -/
def Replay.issue (r : Replay) (c : TraceCall) : Replay := { r with calls := r.calls ++ [c] }

end Openport
