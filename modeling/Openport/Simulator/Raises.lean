/-
  File:      Openport/Simulator/Raises.lean
  Subject:   When a run of the simulated cable on short lines raises: exactly when there
             is a request `_tp20_reply` has no answer to, or one too long for its length.

  `run_some` is one half. For the other a tester opens the CAN channel, sets up a
  TP2.0 channel to a module of the cable's, and sends it the request.
-/
import Openport.Simulator.Lines
import Openport.Simulator.Sound

namespace Openport.Simulator

open Lib Lib.Decimal

/-! ## 1. A line of the tester's -/

/-- A line in which `int` and a float take every number: they take 4300 and 308 digits. -/
def Event.Short : Event → Prop
  | .line text _ => text.length ≤ 300
  | _ => True

end Openport.Simulator
