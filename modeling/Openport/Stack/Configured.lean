/-
  File:      Openport/Stack/Configured.lean
  Subject:   A parameter that `GET_CONFIG` reads is the one `SET_CONFIG` set.

  The two ioctls give a command for each parameter of their list. What `SET_CONFIG`
  returns is the status of the last, so the last is known to be set; what `GET_CONFIG`
  writes at an index was answered. Between the two any calls may come that give no
  command which sets the parameter, closes the channel or resets the cable.
-/
import Openport.Stack.Opened

namespace Openport

open Lib Lib.Decimal Lib.Rows Simulator

/-! ## 1. The two loops -/

end Openport
