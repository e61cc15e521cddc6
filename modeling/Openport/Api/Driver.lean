/-
  File:      Openport/Api/Driver.lean
  Subject:   What the entry points of `src/op_j2534.c` share: the last-error text
             of `src/op_error.c`, `fail` and `failed`, `simple_cmd`,
             `device_error`, `channel_of`, `protocol_uses_pin`.

  An entry point is a function of its arguments, of what happens around it
  (`CallEnv`), and of the driver before it; it gives the return code, what it
  writes through the caller's pointers, and the driver after it. A NULL pointer
  argument is `none` or `false`; an output that is not written is `none`. The
  log and the call recording are left out: no function here reads them.
-/
import Openport.Device.Transaction
import Openport.Lib.BitSet

namespace Openport

open Lib.Ring

/-! ## 1. What a call meets -/

/-- What happens around one call: its transactions in order, the readings of the clock, what
    arrives while it waits for messages, what `malloc` gives, and, for `PassThruOpen`, the
    opening and the transport's own account of a failure. -/
structure CallEnv where
  exchange : Nat → Exchange := fun _ => {}
  clock : Nat → Timeval := fun _ => ⟨0, 0⟩
  wait : Nat → List Arrival := fun _ => []
  mem : Option (Mem UInt8) := none
  opening : OpenEnv := {}
  lastDetail : Option String := none

/-- The whole milliseconds between two readings of the clock, none if it went back. -/
def elapsedMs (start now : Timeval) : Int :=
  max 0 ((now.sec - start.sec) * 1000 + (now.usec - start.usec).tdiv 1000)

/-! ## 2. The driver and its last error -/

/-- The device, and the text of the calling thread's last error, empty for none. -/
structure Driver where
  dev : OpDevice := {}
  errText : String := ""

/-- Bytes of the error text with its NUL, `OP_ERR_TEXT_MAX`. -/
def opErrTextMax : Nat := 80

/-- `op_err_clear`. -/
def Driver.errClear (s : Driver) : Driver := { s with errText := "" }

/-- `op_err_set`, of a text already printed. -/
def Driver.errSet (s : Driver) (text : String) : Driver :=
  { s with errText := String.ofList (text.toList.take (opErrTextMax - 1)) }

/-- `op_err_get`. -/
def Driver.errGet (s : Driver) : String := if s.errText = "" then "No error" else s.errText

/-- What an entry point gives back: its return code, what it wrote through the caller's
    pointers if it wrote anything, and the driver. -/
structure Ret (α : Type) where
  code : Nat
  out : Option α
  drv : Driver

variable {α : Type}

/-- The text `fail` leaves: a reason set deeper down is kept. -/
def Driver.withReason (s : Driver) (code : Nat) (what : String) : Driver :=
  if s.errText ≠ "" then s
  else if opErrName code = "ERR_UNKNOWN" then s.errSet (what ++ ": error " ++ toString code)
  else s.errSet (what ++ ": " ++ opErrName code)

/-- `return fail(code, what)`. -/
def Driver.fail (s : Driver) (code : Nat) (what : String) : Ret α :=
  ⟨code, none, s.withReason code what⟩

/-- `return failed(code, what)`: a success passes through untouched. -/
def Driver.failed (s : Driver) (code : Nat) (what : String) : Ret α :=
  ⟨code, none, if code = statusNoerror then s else s.withReason code what⟩

/-- `op_err_set` and a return. -/
def Driver.failText (s : Driver) (code : Nat) (text : String) : Ret α := ⟨code, none, s.errSet text⟩

/-- `return STATUS_NOERROR`. -/
def Driver.done (s : Driver) (out : Option α) : Ret α := ⟨statusNoerror, out, s⟩

/-- The return after the caller's output was written. -/
def Ret.writing (r : Ret α) (out : α) : Ret α := { r with out := some out }

@[simp] theorem Ret.writing_drv (r : Ret α) (out : α) : (r.writing out).drv = r.drv := rfl

@[simp] theorem Driver.errClear_dev (s : Driver) : s.errClear.dev = s.dev := rfl

@[simp] theorem Driver.withReason_dev (s : Driver) (code : Nat) (what : String) :
    (s.withReason code what).dev = s.dev := by
  unfold Driver.withReason
  split
  · rfl
  split <;> rfl

@[simp] theorem Driver.fail_dev (s : Driver) (code : Nat) (what : String) :
    (s.fail code what : Ret α).drv.dev = s.dev := s.withReason_dev code what

@[simp] theorem Driver.fail_code (s : Driver) (code : Nat) (what : String) :
    (s.fail code what : Ret α).code = code := rfl

@[simp] theorem Driver.failed_dev (s : Driver) (code : Nat) (what : String) :
    (s.failed code what : Ret α).drv.dev = s.dev := by
  unfold Driver.failed
  split
  · rfl
  · exact s.withReason_dev code what

@[simp] theorem Driver.failText_dev (s : Driver) (code : Nat) (text : String) :
    (s.failText code text : Ret α).drv.dev = s.dev := rfl

@[simp] theorem Driver.failText_code (s : Driver) (code : Nat) (text : String) :
    (s.failText code text : Ret α).code = code := rfl

@[simp] theorem Driver.done_dev (s : Driver) (out : Option α) : (s.done out).drv.dev = s.dev := rfl

@[simp] theorem Driver.done_code (s : Driver) (out : Option α) :
    (s.done out).code = statusNoerror := rfl

/-! ## 3. Commands -/

/-- `OP_DEFAULT_CMD_MS`. -/
def opDefaultCmdMs : UInt32 := 1000

/-- `device_error`: every code the standard defines, and the vendor's two, pass through. -/
def deviceError (code : UInt32) : Nat :=
  if code.toNat ≤ errJ2534Highest ∨ code.toNat = errOemVoltageTooHigh ∨
      code.toNat = errOemVoltageTooLow then code.toNat
  else errFailed

theorem deviceError_zero {code : UInt32} : deviceError code = statusNoerror ↔ code = 0 := by
  unfold deviceError
  split
  · rw [← UInt32.toNat_inj]
    rfl
  · rename_i h
    refine ⟨fun e => (nomatch e), ?_⟩
    intro e
    rw [e] at h
    exact absurd (Or.inl (by decide)) h

/-- `reply_to_status`. -/
def replyToStatus (r : OpReply) : Nat :=
  if r.kind = .error then deviceError r.errorCode else statusNoerror

theorem replyToStatus_ok {r : OpReply} (h : r.kind ≠ .error) : replyToStatus r = statusNoerror :=
  if_neg h

theorem replyToStatus_error {r : OpReply} (h : r.kind = .error) :
    replyToStatus r = deviceError r.errorCode := if_pos h

/-- `simple_cmd`: the code, the reply where one came, and the device. -/
def simpleCmd (x : Exchange) (d : OpDevice) (line payload : Bytes) (timeoutMs : UInt32) :
    Nat × Option OpReply × OpDevice :=
  let r := opDeviceCmd x d line payload timeoutMs
  if r.1 ≠ .ok then (opStatusToJ2534 r.1, none, r.2.2)
  else (replyToStatus (r.2.1.getD .incomplete), r.2.1, r.2.2)

/-- On the device a command is the transaction, whatever becomes of its reply. -/
theorem simpleCmd_dev (x : Exchange) (d : OpDevice) (line payload : Bytes) (timeoutMs : UInt32) :
    (simpleCmd x d line payload timeoutMs).2.2 =
    (cmdExchange x d line payload timeoutMs true).2.2 := by
  unfold simpleCmd opDeviceCmd
  simp only
  split <;> rfl

theorem simpleCmd_kept (x : Exchange) (d : OpDevice) (line payload : Bytes) (timeoutMs : UInt32) :
    Kept d (simpleCmd x d line payload timeoutMs).2.2 := by
  rw [simpleCmd_dev]
  exact (cmdExchange_cases x d line payload timeoutMs true).1

/-- **A command that returns `STATUS_NOERROR` ran a transaction that was answered**, by a reply
    that is no error or an error of code 0. -/
theorem simpleCmd_ok {x : Exchange} {d : OpDevice} {line payload : Bytes} {timeoutMs : UInt32}
    (h : (simpleCmd x d line payload timeoutMs).1 = statusNoerror) :
    ∃ t reply, Ran x d line payload timeoutMs true (cmdExchange x d line payload timeoutMs true) t ∧
      t.result = .ok ∧ t.reply = some reply ∧ replyToStatus reply = statusNoerror ∧
      (simpleCmd x d line payload timeoutMs).2.1 = some reply := by
  unfold simpleCmd opDeviceCmd at h ⊢
  simp only at h ⊢
  by_cases hok : (cmdExchange x d line payload timeoutMs true).1 = .ok
  · rw [if_neg (not_not_intro hok)] at h ⊢
    obtain ⟨-, ⟨-, hne, -⟩ | ⟨t, ht⟩⟩ := cmdExchange_cases x d line payload timeoutMs true
    · exact absurd hok hne
    · have hs := ht.settled.reply.mpr ⟨ht.waited, ht.result.trans hok⟩
      obtain ⟨reply, hr⟩ := Option.isSome_iff_exists.mp hs
      rw [← ht.reply, hr] at h ⊢
      exact ⟨t, reply, ht, ht.result.trans hok, hr, h, rfl⟩
  · rw [if_pos hok] at h
    exact absurd (opStatusToJ2534_eq_zero.mp h) hok

/-! ## 4. Channels and pins -/

/-- `channel_of`: the channel an id names, if it is open. -/
def channelOf (d : OpDevice) (id : UInt64) : Option (Fin 10) :=
  if h : id.toNat < 10 then (if (d.ch ⟨id.toNat, h⟩).isOpen then some ⟨id.toNat, h⟩ else none)
  else none

theorem channelOf_some {d : OpDevice} {id : UInt64} {i : Fin 10} (h : channelOf d id = some i) :
    (d.ch i).isOpen = true ∧ id.toNat = i.val := by
  unfold channelOf at h
  by_cases hi : id.toNat < 10
  · rw [dif_pos hi] at h
    by_cases ho : (d.ch ⟨id.toNat, hi⟩).isOpen = true
    · rw [if_pos ho] at h
      cases h
      exact ⟨ho, rfl⟩
    · rw [if_neg ho] at h
      cases h
  · rw [dif_neg hi] at h
    cases h

/-- `OP_DEVICE_ID`. -/
def opDeviceId : UInt64 := 1

/-- `OP_PIN_K` and `OP_PIN_L`. -/
def opPinK : UInt64 := 7
def opPinL : UInt64 := 15

/-- `protocol_uses_pin`: whether a channel of this protocol drives the pin. -/
def protocolUsesPin (protocol pin : UInt64) : Bool :=
  match opProtocolChannel protocol with
  | some 3 | some 4 => pin == opPinK
  | some 7 | some 8 => pin == opPinL
  | _ => false

/-- The channel that shares a K or L line with a channel, `partner` in `PassThruConnect`. -/
def linePartner (i : Fin 10) : Option (Fin 10) :=
  match i with
  | 3 => some 4
  | 4 => some 3
  | 7 => some 8
  | 8 => some 7
  | _ => none

/-- `1u << pin`, for a pin below 32. -/
def pinBit (pin : UInt64) : UInt32 := Lib.BitSet.bit pin.toNat

end Openport
