/-
  File:      Openport/Api/Ending.lean
  Subject:   The four ways an entry point of one command ends.

  It refuses before the command, the command fails, the command succeeds and its
  reply is not one the entry point can use, or it is done. In the first three the
  driver is left as the transaction leaves it, and nothing is written through the
  caller's pointers.
-/
import Openport.Api.Entries
import Openport.Device.Heard

namespace Openport

/-! ## 1. The relation -/

/-- The answer `simple_cmd` gives to some command on this device. -/
def Commanded (x : Exchange) (d : OpDevice) (c : Nat × Option OpReply × OpDevice) : Prop :=
  ∃ line payload timeoutMs, c = simpleCmd x d line payload timeoutMs

theorem Commanded.kept {x : Exchange} {d : OpDevice} {c : Nat × Option OpReply × OpDevice}
    (h : Commanded x d c) : Kept d c.2.2 := by
  obtain ⟨line, payload, timeoutMs, rfl⟩ := h
  exact simpleCmd_kept x d line payload timeoutMs

/-- On the channels a command is what arrives while it runs. -/
theorem Commanded.heard {x : Exchange} {d : OpDevice} {c : Nat × Option OpReply × OpDevice}
    (h : Commanded x d c) : ∃ as ∈ x.heard, SameStream (arrivals d as) c.2.2 := by
  obtain ⟨line, payload, timeoutMs, rfl⟩ := h
  rw [simpleCmd_dev]
  exact cmdExchange_heard x d line payload timeoutMs true

/-- A channel that is closed before a command has the same record behind it. -/
theorem Commanded.shut {x : Exchange} {d : OpDevice} {c : Nat × Option OpReply × OpDevice}
    (h : Commanded x d c) {i : Fin 10} (hi : (d.ch i).isOpen = false) : c.2.2.ch i = d.ch i := by
  obtain ⟨as, -, hsame⟩ := h.heard
  rw [hsame.ch]
  exact arrivals_shut hi as

/-- How an entry point of one command ends: `blank` says that nothing was written through the
    caller's pointers, `fits` which replies it can use, and `commit` what it makes of the device
    then. -/
inductive Ending {α : Type} (x : Exchange) (d : OpDevice) (ret : Ret α) (blank : Option α → Prop)
    (fits : Option OpReply → Prop) (commit : Option OpReply → OpDevice → OpDevice → Prop) :
      Prop where
  | refused : ret.code ≠ statusNoerror → ret.drv.dev = d → blank ret.out →
      Ending x d ret blank fits commit
  | failed (c : Nat × Option OpReply × OpDevice) : Commanded x d c → c.1 ≠ statusNoerror →
      ret.code = c.1 → ret.drv.dev = c.2.2 → blank ret.out → Ending x d ret blank fits commit
  | spoilt (c : Nat × Option OpReply × OpDevice) : Commanded x d c → c.1 = statusNoerror →
      ¬fits c.2.1 → ret.code ≠ statusNoerror → ret.drv.dev = c.2.2 → blank ret.out →
      Ending x d ret blank fits commit
  | done (c : Nat × Option OpReply × OpDevice) : Commanded x d c → c.1 = statusNoerror →
      fits c.2.1 → ret.code = statusNoerror → commit c.2.1 c.2.2 ret.drv.dev →
      Ending x d ret blank fits commit

/-- No output at all. -/
def NoOutput {α : Type} (o : Option α) : Prop := o = none

/-- An ioctl that wrote nothing. -/
def Untouched (o : Option IoctlResult) : Prop := o.getD {} = {}

/-- Any reply will do. -/
def AnyReply (_ : Option OpReply) : Prop := True

/-- The reply is of this kind. -/
def OfKind (kind : OpReplyKind) (reply : Option OpReply) : Prop :=
  ∃ r, reply = some r ∧ r.kind = kind

/-- The device stays as the transaction left it. -/
def AsLeft (_ : Option OpReply) (d d' : OpDevice) : Prop := d' = d

section Refused

variable {α : Type} {x : Exchange} {s : Driver} {blank : Option α → Prop}
  {fits : Option OpReply → Prop} {commit : Option OpReply → OpDevice → OpDevice → Prop}

/-- `return fail(code, what)` before the command. -/
theorem ending_fail {code : Nat} {what : String} (hcode : code ≠ statusNoerror)
    (hblank : blank none) : Ending x s.dev (s.errClear.fail code what : Ret α) blank fits commit :=
  .refused hcode (Driver.fail_dev s.errClear code what) hblank

/-- `op_err_set` and a return before the command. -/
theorem ending_failText {code : Nat} {text : String} (hcode : code ≠ statusNoerror)
    (hblank : blank none) :
    Ending x s.dev (s.errClear.failText code text : Ret α) blank fits commit :=
  .refused hcode rfl hblank

end Refused

theorem errFailed_ne : errFailed ≠ statusNoerror := by decide

theorem errNullParameter_ne : errNullParameter ≠ statusNoerror := by decide

/-- No reply of a kind passes the test of `simple_cmd`'s callers. -/
theorem not_ofKind {reply : Option OpReply} {kind : OpReplyKind}
    (h : (reply.filter fun r => r.kind == kind) = none) : ¬OfKind kind reply := by
  rintro ⟨r, hr, hk⟩
  rw [Option.filter_eq_none_iff] at h
  exact h r hr (beq_iff_eq.mpr hk)

theorem ofKind {reply : Option OpReply} {kind : OpReplyKind} {r : OpReply}
    (h : (reply.filter fun r => r.kind == kind) = some r) : reply = some r ∧ OfKind kind reply := by
  obtain ⟨hr, hk⟩ := Option.filter_eq_some_iff.mp h
  exact ⟨hr, r, hr, beq_iff_eq.mp hk⟩

/-- An entry point that passes the code of its command on. -/
theorem ending_passed {α : Type} {x : Exchange} {d : OpDevice} {ret : Ret α}
    {blank : Option α → Prop} {c : Nat × Option OpReply × OpDevice} (h : Commanded x d c)
    (hcode : ret.code = c.1) (hdev : ret.drv.dev = c.2.2) (hblank : blank ret.out) :
    Ending x d ret blank AnyReply AsLeft := by
  by_cases hok : c.1 = statusNoerror
  · exact .done c h hok trivial (hcode.trans hok) hdev
  · exact .failed c h hok hcode hdev hblank

/-! ## 2. Periodic messages -/

/-- The id a periodic message was given goes to the end of its channel's list, which has room. -/
def EntersPeriodic (channelID : UInt64) (reply : Option OpReply) (d d' : OpDevice) : Prop :=
  ∃ i r, channelOf d channelID = some i ∧ (d.ch i).periodic.length < opPeriodicPerCh ∧
    reply = some r ∧
    d' = d.setCh i { d.ch i with periodic := (d.ch i).periodic ++ [r.a] }

theorem channelOf_kept {d d' : OpDevice} (h : Kept d d') (id : UInt64) :
    channelOf d' id = channelOf d id := by
  unfold channelOf
  by_cases hi : id.toNat < 10
  · rw [dif_pos hi, dif_pos hi, h.isOpen]
  · rw [dif_neg hi, dif_neg hi]

theorem passThruStartPeriodicMsg_ending (env : CallEnv) (s : Driver) (channelID : UInt64)
    (pMsg : Option PassThruMsg) (pMsgID : Bool) (timeInterval : UInt64) :
    Ending (env.exchange 0) s.dev
      (passThruStartPeriodicMsg env s channelID pMsg pMsgID timeInterval) NoOutput
      (OfKind .periodic) (EntersPeriodic channelID) := by
  unfold passThruStartPeriodicMsg
  simp only
  split
  · exact ending_fail (by decide) rfl
  split
  · rename_i m
    split
    · exact ending_fail (by decide) rfl
    rename_i i hi
    split
    · exact ending_fail (by decide) rfl
    split
    · rename_i hok
      refine .refused hok ?_ rfl
      rw [Driver.fail_dev, msgOk_dev]
      rfl
    split
    · exact ending_fail (by decide) rfl
    rename_i hroom
    split
    · exact ending_fail (by decide) rfl
    split
    · rename_i hbad
      exact .failed _ ⟨_, _, _, rfl⟩ hbad rfl (Driver.fail_dev _ _ _) rfl
    rename_i hgood
    have hgood := Decidable.not_not.mp hgood
    split
    · rename_i hnone
      exact .spoilt _ ⟨_, _, _, rfl⟩ hgood (not_ofKind hnone) errFailed_ne
        (Driver.fail_dev _ _ _) rfl
    · rename_i reply hsome
      obtain ⟨hr, hk⟩ := ofKind hsome
      refine .done _ ⟨_, _, _, rfl⟩ hgood hk rfl ⟨i, reply, ?_, ?_, hr, rfl⟩
      · rw [channelOf_kept (simpleCmd_kept _ _ _ _ _)]
        exact hi
      · rw [(simpleCmd_kept _ _ _ _ _).periodic]
        exact Nat.lt_of_not_le hroom
  · exact ending_fail (by decide) rfl

/-- **An id the call gives out is the number in the reply to its command.** -/
theorem passThruStartPeriodicMsg_given {env : CallEnv} {s : Driver} {channelID : UInt64}
    {pMsg : Option PassThruMsg} {pMsgID : Bool} {timeInterval id : UInt64}
    (h : (passThruStartPeriodicMsg env s channelID pMsg pMsgID timeInterval).out = some id) :
    ∃ c r, Commanded (env.exchange 0) s.dev c ∧ c.1 = statusNoerror ∧ c.2.1 = some r ∧
      r.kind = .periodic ∧ id = r.a.toUInt64 ∧
      (passThruStartPeriodicMsg env s channelID pMsg pMsgID timeInterval).drv.dev.log =
        c.2.2.log := by
  revert h
  unfold passThruStartPeriodicMsg
  simp only
  split
  · exact fun h => nomatch h
  split
  · split
    · exact fun h => nomatch h
    split
    · exact fun h => nomatch h
    split
    · exact fun h => nomatch h
    split
    · exact fun h => nomatch h
    split
    · exact fun h => nomatch h
    split
    · exact fun h => nomatch h
    rename_i hgood
    split
    · exact fun h => nomatch h
    · rename_i reply hsome
      intro h
      obtain ⟨hr, reply', hr', hk⟩ := ofKind hsome
      obtain rfl : reply = reply' := Option.some.inj (hr.symm.trans hr')
      exact ⟨_, reply, ⟨_, _, _, rfl⟩, Decidable.not_not.mp hgood, hr, hk,
        (Option.some.inj h).symm, rfl⟩
  · exact fun h => nomatch h

/-! ## 3. Filters -/

theorem startFilter_ending (env : CallEnv) (s : Driver) (i : Fin 10) (filterType : UInt64)
    (msgs : List PassThruMsg) (flags : UInt64) (each : Nat) :
    Ending (env.exchange 0) s.dev (startFilter env s i filterType msgs flags each) NoOutput
      (OfKind .filter) AsLeft := by
  unfold startFilter
  simp only
  split
  · exact .refused errFailed_ne (Driver.fail_dev _ _ _) rfl
  split
  · rename_i hbad
    exact .failed _ ⟨_, _, _, rfl⟩ hbad rfl (Driver.fail_dev _ _ _) rfl
  rename_i hgood
  have hgood := Decidable.not_not.mp hgood
  split
  · rename_i hnone
    exact .spoilt _ ⟨_, _, _, rfl⟩ hgood (not_ofKind hnone) errFailed_ne (Driver.fail_dev _ _ _) rfl
  · rename_i reply hsome
    exact .done _ ⟨_, _, _, rfl⟩ hgood (ofKind hsome).2 rfl rfl

theorem passThruStartMsgFilter_ending (env : CallEnv) (s : Driver) (channelID filterType : UInt64)
    (pMaskMsg pPatternMsg pFlowControlMsg : Option PassThruMsg) (pFilterID : Bool) :
    Ending (env.exchange 0) s.dev (passThruStartMsgFilter env s channelID filterType pMaskMsg
      pPatternMsg pFlowControlMsg pFilterID) NoOutput (OfKind .filter) AsLeft := by
  have hstart := passThruStartMsgFilter_start env s channelID filterType pMaskMsg pPatternMsg
    pFlowControlMsg pFilterID
  generalize passThruStartMsgFilter env s channelID filterType pMaskMsg pPatternMsg
    pFlowControlMsg pFilterID = ret at hstart ⊢
  cases hstart with
  | failed code what hcode => exact ending_fail hcode rfl
  | sent i mask pattern flow => exact startFilter_ending env s.errClear i filterType _ _ _

theorem passThruStopMsgFilter_ending (env : CallEnv) (s : Driver) (channelID filterID : UInt64) :
    Ending (env.exchange 0) s.dev (passThruStopMsgFilter env s channelID filterID) NoOutput
      AnyReply AsLeft := by
  unfold passThruStopMsgFilter
  simp only
  split
  · exact ending_fail (by decide) rfl
  split
  · exact ending_fail (by decide) rfl
  · exact ending_passed ⟨_, _, _, rfl⟩ rfl (Driver.failed_dev _ _ _) rfl

/-! ## 4. Pins -/

/-- The pin sets after an acknowledged `atv`. -/
def EntersPin (pin voltage : UInt64) (_ : Option OpReply) (d d' : OpDevice) : Prop :=
  d' = pinsAfter d pin voltage

theorem passThruSetProgrammingVoltage_ending (env : CallEnv) (s : Driver)
    (deviceID pin voltage : UInt64) :
    Ending (env.exchange 0) s.dev (passThruSetProgrammingVoltage env s deviceID pin voltage)
      NoOutput AnyReply (EntersPin pin voltage) := by
  unfold passThruSetProgrammingVoltage
  simp only
  split
  · exact ending_fail (by decide) rfl
  split
  · exact ending_failText (by decide) rfl
  split
  · exact ending_failText (by decide) rfl
  split
  · exact ending_fail (by decide) rfl
  split
  · rename_i hbad
    exact .failed _ ⟨_, _, _, rfl⟩ hbad rfl (Driver.fail_dev _ _ _) rfl
  · rename_i hgood
    exact .done _ ⟨_, _, _, rfl⟩ (Decidable.not_not.mp hgood) trivial rfl rfl

/-- How `READ_VBATT` and `READ_PROG_VOLTAGE` end. -/
theorem ioctlReadPin_ending (env : CallEnv) (s : Driver) (pin : UInt32) (out : Bool)
    (what : String) (r : Nat × Option UInt64 × OpDevice) (hr : r = ioctlReadPin env s.dev pin out) :
    Ending (env.exchange 0) s.dev
      (({ s with dev := r.2.2 }.failed r.1 what : Ret IoctlResult).writing { value := r.2.1 })
      Untouched (OfKind .pin) AsLeft := by
  have hdev : (({ s with dev := r.2.2 }.failed r.1 what : Ret IoctlResult).writing
      { value := r.2.1 }).drv.dev = r.2.2 := by
    rw [Ret.writing_drv, Driver.failed_dev]
  unfold ioctlReadPin at hr
  simp only at hr
  by_cases hout : (!out) = true
  · rw [if_pos hout] at hr
    subst hr
    exact .refused errNullParameter_ne hdev rfl
  rw [if_neg hout] at hr
  by_cases hgood : (simpleCmd (env.exchange 0) s.dev (opCmdReadPin pin) [] opDefaultCmdMs).1 =
      statusNoerror
  · rw [if_neg (not_not_intro hgood)] at hr
    cases hf : (simpleCmd (env.exchange 0) s.dev (opCmdReadPin pin) [] opDefaultCmdMs).2.1.filter
        fun reply => reply.kind == .pin with
    | none =>
        rw [hf] at hr
        subst hr
        exact .spoilt _ ⟨_, _, _, rfl⟩ hgood (not_ofKind hf) errFailed_ne hdev rfl
    | some reply =>
        rw [hf] at hr
        subst hr
        exact .done _ ⟨_, _, _, rfl⟩ hgood (ofKind hf).2 rfl hdev
  · rw [if_pos hgood] at hr
    subst hr
    exact .failed _ ⟨_, _, _, rfl⟩ hgood rfl hdev rfl

/-! ## 5. K-line initialisation -/

/-- The reply of an ECU that answered. -/
def InitAnswer (reply : Option OpReply) : Prop := ∃ r, reply = some r ∧
    r.kind = .init ∧ r.bytes ≠ []

theorem initCommand_error {ch : Fin 10} {fiveBaud : Bool} {input : IoctlIn} {output : IoctlOut}
    {code : Nat} (h : initCommand ch fiveBaud input output = .error code) :
      code ≠ statusNoerror := by
  unfold initCommand at h
  cases fiveBaud with
  | true =>
      rw [if_pos rfl] at h
      split at h
      · split at h
        · cases h
          decide
        split at h
        · cases h
          decide
        · cases h
      · cases h
        decide
  | false =>
      rw [if_neg (by decide)] at h
      split at h
      · cases h
      · split at h
        · cases h
          decide
        · cases h

/-- How `FIVE_BAUD_INIT` and `FAST_INIT` end. -/
theorem ioctlInit_ending (env : CallEnv) (s : Driver) (ch : Fin 10) (fiveBaud : Bool)
    (input : IoctlIn) (output : IoctlOut) (what : String) (r : Nat × IoctlResult × Driver)
    (hr : r = ioctlInit env s ch fiveBaud input output) :
    Ending (env.exchange 0) s.dev ((r.2.2.failed r.1 what : Ret IoctlResult).writing r.2.1)
      Untouched InitAnswer AsLeft := by
  have hdev : ((r.2.2.failed r.1 what : Ret IoctlResult).writing r.2.1).drv.dev = r.2.2.dev := by
    rw [Ret.writing_drv, Driver.failed_dev]
  unfold ioctlInit at hr
  cases hcmd : initCommand ch fiveBaud input output with
  | error code =>
      rw [hcmd] at hr
      subst hr
      exact .refused (initCommand_error hcmd) hdev rfl
  | ok lp =>
      obtain ⟨line, payload⟩ := lp
      rw [hcmd] at hr
      simp only at hr
      by_cases hl : line = []
      · rw [if_pos hl] at hr
        subst hr
        exact .refused errFailed_ne hdev rfl
      rw [if_neg hl] at hr
      generalize hc : simpleCmd (env.exchange 0) s.dev line payload 5000 = c at hr
      have hcom : Commanded (env.exchange 0) s.dev c := ⟨line, payload, 5000, hc.symm⟩
      by_cases hgood : c.1 = statusNoerror
      · rw [if_neg (not_not_intro hgood)] at hr
        by_cases hno : (c.2.1.getD .incomplete).kind ≠ .init ∨
            (c.2.1.getD .incomplete).data.getD [] = []
        · rw [if_pos hno] at hr
          subst hr
          refine .spoilt c hcom hgood ?_ (show errInitFailed ≠ statusNoerror by decide) hdev rfl
          rintro ⟨reply, he, hk, hb⟩
          rw [he] at hno
          exact hno.elim (fun h => h hk) hb
        · rw [if_neg hno] at hr
          subst hr
          obtain ⟨hk, hb⟩ := not_or.mp hno
          refine .done c hcom hgood ?_ rfl hdev
          cases he : c.2.1 with
          | none =>
              rw [he] at hb
              exact absurd rfl hb
          | some reply =>
              rw [he] at hk hb
              exact ⟨reply, rfl, Decidable.not_not.mp hk, hb⟩
      · rw [if_pos hgood] at hr
        subst hr
        exact .failed c hcom hgood rfl hdev rfl

/-! ## 6. Ioctls of one command -/

/-- The channel's periodic messages are forgotten. -/
def ClearsPeriodic (channelID : UInt64) (_ : Option OpReply) (d d' : OpDevice) : Prop :=
  ∃ i, channelOf d channelID = some i ∧ d' = d.setCh i { d.ch i with periodic := [] }

/-- The ioctls of a channel that give one command. -/
def channelCommandIoctls : List UInt64 :=
  [fiveBaudInit, fastInit, clearPeriodicMsgs, clearMsgFilters]

/-- The ioctls that give one command. -/
def commandIoctls : List UInt64 := readVbatt :: readProgVoltage :: channelCommandIoctls

/-- The replies an ioctl of one command can use. -/
def ioctlFits (ioctlID : UInt64) : Option OpReply → Prop :=
  if ioctlID = readVbatt ∨ ioctlID = readProgVoltage then OfKind .pin
  else if ioctlID = fiveBaudInit ∨ ioctlID = fastInit then InitAnswer
  else AnyReply

/-- What an ioctl of one command makes of the device. -/
def ioctlCommit (channelID ioctlID : UInt64) : Option OpReply → OpDevice → OpDevice → Prop :=
  if ioctlID = clearPeriodicMsgs then ClearsPeriodic channelID else AsLeft

theorem channelIoctl_ending (env : CallEnv) {s : Driver} {channelID ioctlID : UInt64} {i : Fin 10}
    (hi : channelOf s.dev channelID = some i) (input : IoctlIn) (output : IoctlOut)
    (h : ioctlID ∈ channelCommandIoctls) :
    Ending (env.exchange 0) s.dev (channelIoctl env s i ioctlID input output) Untouched
      (ioctlFits ioctlID) (ioctlCommit channelID ioctlID) := by
  unfold channelCommandIoctls at h
  simp only [List.mem_cons, List.not_mem_nil, or_false] at h
  rcases h with rfl | rfl | rfl | rfl
  · exact ioctlInit_ending env s i true input output _ _ rfl
  · exact ioctlInit_ending env s i false input output _ _ rfl
  · have e : channelIoctl env s i clearPeriodicMsgs input output =
        let r := simpleCmd (env.exchange 0) s.dev (opCmdClearPeriodic i.val) [] opDefaultCmdMs
        if r.1 ≠ statusNoerror then
          { s with dev := r.2.2 }.fail r.1 "PassThruIoctl(CLEAR_PERIODIC_MSGS)"
        else { s with dev := r.2.2.setCh i { r.2.2.ch i with periodic := [] } }.done none := rfl
    rw [e]
    simp only
    split
    · rename_i hbad
      exact .failed _ ⟨_, _, _, rfl⟩ hbad rfl (Driver.fail_dev _ _ _) rfl
    · rename_i hgood
      refine .done _ ⟨_, _, _, rfl⟩ (Decidable.not_not.mp hgood) trivial rfl ⟨i, ?_, rfl⟩
      rw [channelOf_kept (simpleCmd_kept _ _ _ _ _)]
      exact hi
  · exact ending_passed ⟨_, _, _, rfl⟩ rfl (Driver.failed_dev _ _ _) rfl

theorem passThruIoctl_ending (env : CallEnv) (s : Driver) (channelID : UInt64) {ioctlID : UInt64}
    (input : IoctlIn) (output : IoctlOut) (h : ioctlID ∈ commandIoctls) :
    Ending (env.exchange 0) s.dev (passThruIoctl env s channelID ioctlID input output) Untouched
      (ioctlFits ioctlID) (ioctlCommit channelID ioctlID) := by
  unfold passThruIoctl
  simp only
  split
  · exact ending_fail (by decide) rfl
  rcases List.mem_cons.mp h with rfl | h
  · exact ioctlReadPin_ending env s.errClear _ _ _ _ rfl
  rcases List.mem_cons.mp h with rfl | h
  · exact ioctlReadPin_ending env s.errClear _ _ _ _ rfl
  have hfacts : ioctlID ≠ readVbatt ∧ ioctlID ≠ readProgVoltage ∧
      (channelIoctlName ioctlID).isSome = true := by
    unfold channelCommandIoctls at h
    simp only [List.mem_cons, List.not_mem_nil, or_false] at h
    rcases h with rfl | rfl | rfl | rfl <;> decide
  obtain ⟨h1, h2, hsome⟩ := hfacts
  obtain ⟨name, hname⟩ := Option.isSome_iff_exists.mp hsome
  rw [if_neg h1, if_neg h2, hname]
  simp only
  cases hi : channelOf s.dev channelID with
  | none =>
      have hi' : channelOf s.errClear.dev channelID = none := hi
      rw [hi']
      exact ending_fail (by decide) rfl
  | some i =>
      have hi' : channelOf s.errClear.dev channelID = some i := hi
      rw [hi']
      exact channelIoctl_ending env hi' input output h

end Openport
