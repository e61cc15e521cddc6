/-
  File:      Openport/Api/Given.lean
  Subject:   The lines each entry point hands to `cmd_exchange`, and that it does
             nothing else to the numbers and the log.

  `Call.Gives` lists the sites of the source that give a command, one each, with
  the checks a call has passed on its way there. `Issues` says of a piece of the
  driver that on the device it is a sequence of `cmd_exchange` with such lines and
  of things that touch neither the counter nor the log.
-/
import Openport.Api.Acked
import Openport.Api.Ending

namespace Openport

/-! ## 1. The commands of a call -/

/-- The line and the payload a call hands to `cmd_exchange`; `d` is the device as the call finds
    it. -/
inductive Call.Gives (env : CallEnv) (d : OpDevice) : Call → Bytes → Bytes → Prop where
  | resets (p : Bool) : Gives env d (.passThruOpen p) opCmdReset []
  | closesAll (p : Bool) : Gives env d (.passThruOpen p) opCmdCloseAll []
  | identifies (p : Bool) : Gives env d (.passThruOpen p) opCmdVersion []
  | closes (id : UInt64) : Gives env d (.passThruClose id) opCmdReset []
  | connects (id protocolID flags baud : UInt64) (p : Bool) (fw : Fin 10) :
      opProtocolChannel protocolID = some fw →
      Gives env d (.passThruConnect id protocolID flags baud p)
        (opCmdOpen fw.val flags.toUInt32 baud.toUInt32) []
  /-- the channel the cable has open and the driver no memory for -/
  | givesBack (id protocolID flags baud : UInt64) (p : Bool) (fw : Fin 10) :
      opProtocolChannel protocolID = some fw →
      Gives env d (.passThruConnect id protocolID flags baud p) (opCmdClose fw.val) []
  | disconnects (ch : UInt64) (i : Fin 10) : channelOf d ch = some i →
      Gives env d (.passThruDisconnect ch) (opCmdClose i.val) []
  /-- the `k`-th message, with what is left of the Timeout then -/
  | writes (ch : UInt64) (msgs : Nat → PassThruMsg) (want timeout : UInt64) (i : Fin 10) (k : Nat) :
      channelOf d ch = some i → k < want.toNat →
      (timeout ≠ 0 → 0 < remainingMs timeout (elapsedMs (env.clock 0) (env.clock (k + 1)))) →
      (msgOk { dev := d } i (msgs k)).code = statusNoerror →
      Gives env d (.passThruWriteMsgs ch (some msgs) (some want) timeout)
        (opCmdTransmit i.val (msgs k).dataSize.toNat (msgs k).txFlags.toUInt32
          (budgetUs d i (writeWait timeout (elapsedMs (env.clock 0) (env.clock (k + 1))))))
        (msgs k).payload
  | startsPeriodic (ch : UInt64) (m : PassThruMsg) (interval : UInt64) (i : Fin 10) :
      channelOf d ch = some i → interval ≠ 0 → interval.toNat ≤ 0xFFFFFFFF / 1000 →
      (msgOk { dev := d } i m).code = statusNoerror →
      Gives env d (.passThruStartPeriodicMsg ch (some m) true interval)
        (opCmdPeriodicStart i.val (interval.toUInt32 * 1000) m.txFlags.toUInt32 m.dataSize.toNat)
        m.payload
  | stopsPeriodic (ch id : UInt64) (i : Fin 10) : channelOf d ch = some i →
      Gives env d (.passThruStopPeriodicMsg ch id) (opCmdPeriodicStop i.val id.toUInt32) []
  /-- a mask, a pattern and a flow-control message, as many as the type takes and all of one
      length -/
  | startsFilter (ch type : UInt64) (mask pattern : PassThruMsg) (pFlow flow : Option PassThruMsg)
      (p : Bool) (i : Fin 10) : channelOf d ch = some i →
      (if opFilterMsgCount type.toUInt32 = 2 then none else pFlow) = flow →
      (mask :: pattern :: flow.toList).length = opFilterMsgCount type.toUInt32 →
      1 ≤ mask.dataSize.toNat → mask.dataSize.toNat ≤ 255 →
      (∀ m ∈ mask :: pattern :: flow.toList, m.dataSize.toNat = mask.dataSize.toNat) →
      Gives env d (.passThruStartMsgFilter ch type (some mask) (some pattern) pFlow p)
        (opCmdFilter i.val type.toUInt32 (flow.getD mask).txFlags.toUInt32 mask.dataSize.toNat)
        ((mask :: pattern :: flow.toList).map fun m => m.bytes mask.dataSize.toNat).flatten
  | stopsFilter (ch id : UInt64) (i : Fin 10) : channelOf d ch = some i →
      Gives env d (.passThruStopMsgFilter ch id) (opCmdStopFilter i.val id.toUInt32) []
  | setsVoltage (id pin voltage : UInt64) :
      Gives env d (.passThruSetProgrammingVoltage id pin voltage) (cmdVoltage pin voltage) []
  | readsBattery (ch : UInt64) (input : IoctlIn) (output : IoctlOut) :
      Gives env d (.passThruIoctl ch readVbatt input output) (opCmdReadPin opPinVbatt) []
  | readsVoltage (ch : UInt64) (input : IoctlIn) (output : IoctlOut) :
      Gives env d (.passThruIoctl ch readProgVoltage input output)
        (opCmdReadPin ((input.pin.map (·.toUInt32)).getD opPinProgVoltage)) []
  /-- the `k`-th parameter of the list -/
  | getsConfig (ch : UInt64) (input : IoctlIn) (output : IoctlOut) (i : Fin 10)
      (p : Nat × (Nat → UInt64 × UInt64)) (k : Nat) : channelOf d ch = some i →
      configParams input.config = some p → k < p.1 →
      Gives env d (.passThruIoctl ch getConfig input output)
        (opCmdGetConfig i.val (p.2 k).1.toUInt32) []
  | setsConfig (ch : UInt64) (input : IoctlIn) (output : IoctlOut) (i : Fin 10)
      (p : Nat × (Nat → UInt64 × UInt64)) (k : Nat) : channelOf d ch = some i →
      configParams input.config = some p → k < p.1 →
      Gives env d (.passThruIoctl ch setConfig input output)
        (opCmdSetConfig i.val (p.2 k).1.toUInt32 (p.2 k).2.toUInt32) []
  | fiveBaud (ch : UInt64) (input : IoctlIn) (output : IoctlOut) (i : Fin 10) (n : UInt64)
      (bytes : Nat → UInt8) : channelOf d ch = some i → input.bytes = some ⟨n, some bytes⟩ →
      Gives env d (.passThruIoctl ch fiveBaudInit input output)
        (opCmdFiveBaud i.val (bytes 0)) []
  | wakesUp (ch : UInt64) (input : IoctlIn) (output : IoctlOut) (i : Fin 10) :
      channelOf d ch = some i → input.msg = none →
      Gives env d (.passThruIoctl ch fastInit input output) (opCmdFastInit i.val 0) []
  | requests (ch : UInt64) (input : IoctlIn) (output : IoctlOut) (i : Fin 10) (m : PassThruMsg) :
      channelOf d ch = some i → input.msg = some m → m.dataSize.toNat ≤ 255 →
      Gives env d (.passThruIoctl ch fastInit input output)
        (opCmdFastInit i.val m.dataSize.toNat) m.payload
  | clearsPeriodic (ch : UInt64) (input : IoctlIn) (output : IoctlOut) (i : Fin 10) :
      channelOf d ch = some i →
      Gives env d (.passThruIoctl ch clearPeriodicMsgs input output)
        (opCmdClearPeriodic i.val) []
  | clearsFilters (ch : UInt64) (input : IoctlIn) (output : IoctlOut) (i : Fin 10) :
      channelOf d ch = some i →
      Gives env d (.passThruIoctl ch clearMsgFilters input output) (opCmdClearFilters i.val) []

/-! ## 2. A sequence of commands -/

/-- The counter and the log are as they were, and no session began. -/
structure Silent (d d' : OpDevice) : Prop where
  log : d'.log = d.log
  seqNext : d'.seqNext = d.seqNext
  opened : d'.opened = true → d.opened = true

/-- From one device to the other by commands of this kind and by what leaves the numbers alone. -/
inductive Issues (G : Bytes → Bytes → Prop) : OpDevice → OpDevice → Prop where
  | silent {d d' : OpDevice} : Silent d d' → Issues G d d'
  | command {d : OpDevice} (x : Exchange) {line payload : Bytes} (timeoutMs : UInt32)
      (wait : Bool) : G line payload →
      Issues G d (cmdExchange x d line payload timeoutMs wait).2.2
  | trans {d d' d'' : OpDevice} : Issues G d d' → Issues G d' d'' → Issues G d d''

section Issues

variable {G : Bytes → Bytes → Prop} {d d' : OpDevice}

theorem Silent.refl (d : OpDevice) : Silent d d := ⟨rfl, rfl, fun h => h⟩

theorem Steady.silent (h : Steady d d') : Silent d d' :=
  ⟨h.log, h.seqNext, fun ho => h.opened.symm.trans ho⟩

theorem silent_setCh (d : OpDevice) (i : Fin 10) (c : OpChannel) : Silent d (d.setCh i c) :=
  ⟨d.setCh_log i c, rfl, fun h => h⟩

theorem silent_close (d : OpDevice) : Silent d (opDeviceClose d) := by
  unfold opDeviceClose
  split
  · exact ⟨rfl, rfl, fun h => (nomatch h)⟩
  · exact Silent.refl d

theorem Issues.refl (d : OpDevice) : Issues G d d := .silent (.refl d)

/-- What leaves the numbers alone may come behind. -/
theorem Issues.after {d'' : OpDevice} (h : Issues G d d') (h' : Silent d' d'') : Issues G d d'' :=
  h.trans (.silent h')

theorem simpleCmd_issues (x : Exchange) (d : OpDevice) {line payload : Bytes} (timeoutMs : UInt32)
    (h : G line payload) : Issues G d (simpleCmd x d line payload timeoutMs).2.2 := by
  rw [simpleCmd_dev]
  exact .command x timeoutMs true h

end Issues

/-! ## 3. Opening and closing -/

theorem syncReset_issues {G : Bytes → Bytes → Prop} (hreset : G opCmdReset []) (env : OpenEnv)
    (tries : Nat) : ∀ (d : OpDevice) (attempt : Nat),
      Issues G d (syncReset env d attempt tries).2 := by
  induction tries with
  | zero => exact fun d _ => Issues.refl d
  | succ tries ih =>
      intro d attempt
      have hcmd : Issues G d (opDeviceCmd (env.exchange attempt) d opCmdReset [] 1000).2.2 :=
        .command _ _ _ hreset
      unfold syncReset
      simp only
      split
      · exact hcmd.trans (ih _ _)
      · exact hcmd

theorem syncDevice_issues {G : Bytes → Bytes → Prop} (hreset : G opCmdReset [])
    (hall : G opCmdCloseAll []) (env : OpenEnv) (d : OpDevice) :
    Issues G d (syncDevice env d).2 := by
  have hr := syncReset_issues hreset env 3 d 0
  have ha : ∀ d' : OpDevice, Issues G d' (opDeviceCmd (env.exchange 3) d' opCmdCloseAll [] 1000).2.2 :=
    fun d' => .command _ _ _ hall
  unfold syncDevice
  split
  · exact Issues.refl d
  simp only
  split
  · split
    · split <;> exact hr.trans (ha _)
    · split <;> exact hr.trans (ha _)
  · split <;> exact hr

/-- **An opening goes on from a new session**, by its two commands. -/
theorem opDeviceOpen_issues {G : Bytes → Bytes → Prop} (hreset : G opCmdReset [])
    (hall : G opCmdCloseAll []) (env : OpenEnv) {d : OpDevice} (h : d.opened = false) :
    Issues G (newSession d env.clock) (opDeviceOpen env d).2 := by
  have hnever : Silent (newSession d env.clock) (freshSession d env.clock) :=
    ⟨rfl, rfl, fun _ => rfl⟩
  have hsync := syncDevice_issues hreset hall env (newSession d env.clock)
  unfold opDeviceOpen
  rw [if_neg (by rw [h]; decide)]
  simp only
  split
  · exact .silent hnever
  split
  · exact .silent hnever
  split
  · exact hsync
  · exact hsync.after (silent_close _)

theorem identify_issues {G : Bytes → Bytes → Prop} (hversion : G opCmdVersion []) (env : CallEnv)
    (s : Driver) : Issues G s.dev (identify env s).drv.dev := by
  have hcmd := simpleCmd_issues (env.exchange 0) s.dev opDefaultCmdMs hversion
  have hclosed := hcmd.after (silent_close _)
  unfold identify
  simp only
  split
  · rw [Driver.fail_dev]
    exact hclosed
  split
  · rw [Driver.failText_dev]
    exact hclosed
  split
  · rw [Driver.failText_dev]
    exact hclosed
  split
  · rw [Driver.failText_dev]
    exact hclosed.after ⟨rfl, rfl, fun h => h⟩
  · rw [Driver.done_dev]
    exact hcmd.after ⟨rfl, rfl, fun h => h⟩

theorem passThruOpen_issues (env : CallEnv) (s : Driver) (p : Bool) :
    (passThruOpen env s p).drv.dev = s.dev ∨
      Issues (Call.Gives env s.dev (.passThruOpen p))
        (newSession (opDeviceClose s.dev) env.opening.clock) (passThruOpen env s p).drv.dev := by
  have hopen := opDeviceOpen_issues (G := Call.Gives env s.dev (.passThruOpen p)) (.resets p)
    (.closesAll p) env.opening (opDeviceClose_opened s.dev)
  unfold passThruOpen
  simp only
  split
  · exact Or.inl (Driver.fail_dev _ _ _)
  split
  · exact Or.inl (Driver.fail_dev _ _ _)
  refine Or.inr ?_
  split
  · rw [openFailed_dev]
    exact hopen
  · exact hopen.trans (identify_issues (.identifies p) env
      { s.errClear with dev := (opDeviceOpen env.opening (opDeviceClose s.errClear.dev)).2 })

section Calls

variable (env : CallEnv) (s : Driver)

theorem passThruClose_issues (id : UInt64) :
    Issues (Call.Gives env s.dev (.passThruClose id)) s.dev (passThruClose env s id).drv.dev := by
  unfold passThruClose
  simp only
  split
  · rw [Driver.fail_dev]
    exact Issues.refl s.dev
  · rw [Driver.failed_dev]
    exact (simpleCmd_issues _ s.dev _ (.closes id)).after (silent_close _)

/-- `PassThruConnect` from its command on. -/
theorem connectOn_issues {G : Bytes → Bytes → Prop} (fw : Fin 10)
    (protocolID flags baud : UInt64) (hopen : G (opCmdOpen fw.val flags.toUInt32 baud.toUInt32) [])
    (hclose : G (opCmdClose fw.val) []) :
    Issues G s.dev (connectOn env s fw protocolID flags baud).drv.dev := by
  have hcmd := simpleCmd_issues (env.exchange 0) s.dev opDefaultCmdMs hopen
  unfold connectOn
  simp only
  split
  · rw [Driver.fail_dev]
    exact Issues.refl s.dev
  split
  · rw [Driver.fail_dev]
    exact hcmd
  generalize (simpleCmd (env.exchange 0) s.dev (opCmdOpen fw.val flags.toUInt32 baud.toUInt32) []
    opDefaultCmdMs).2.2 = d at hcmd
  have htaken : Issues G s.dev (opDeviceOpenChannel d fw env.mem protocolID.toUInt32).2 :=
    hcmd.after (silent_setCh d fw _)
  split
  · rw [Driver.failText_dev]
    exact htaken.trans (simpleCmd_issues _ _ _ hclose)
  · rw [Driver.done_dev]
    exact htaken

theorem passThruConnect_issues (id protocolID flags baud : UInt64) (p : Bool) :
    Issues (Call.Gives env s.dev (.passThruConnect id protocolID flags baud p)) s.dev
      (passThruConnect env s id protocolID flags baud p).drv.dev := by
  unfold passThruConnect
  simp only
  split
  · rw [Driver.fail_dev]
    exact Issues.refl s.dev
  split
  · rw [Driver.fail_dev]
    exact Issues.refl s.dev
  split
  · rw [Driver.fail_dev]
    exact Issues.refl s.dev
  rename_i fw hfw
  split
  · rw [Driver.fail_dev]
    exact Issues.refl s.dev
  split
  · rw [Driver.failText_dev]
    exact Issues.refl s.dev
  split
  · rw [Driver.fail_dev]
    exact Issues.refl s.dev
  split
  · rw [Driver.failText_dev]
    exact Issues.refl s.dev
  · exact connectOn_issues env s.errClear fw protocolID flags baud
      (.connects id protocolID flags baud p fw hfw) (.givesBack id protocolID flags baud p fw hfw)

theorem passThruDisconnect_issues (ch : UInt64) :
    Issues (Call.Gives env s.dev (.passThruDisconnect ch)) s.dev
      (passThruDisconnect env s ch).drv.dev := by
  unfold passThruDisconnect
  simp only
  split
  · rw [Driver.fail_dev]
    exact Issues.refl s.dev
  split
  · rw [Driver.fail_dev]
    exact Issues.refl s.dev
  · rename_i i hi
    rw [Driver.failed_dev]
    exact (simpleCmd_issues _ s.dev _ (.disconnects ch i hi)).after (silent_setCh _ i _)

end Calls

/-! ## 4. Messages -/

theorem opDevicePop_silent (d : OpDevice) (i : Fin 10) : Silent d (opDevicePop d i).2.2 := by
  unfold opDevicePop
  split
  · exact Silent.refl d
  split
  · exact silent_setCh d i _
  · exact Silent.refl d

theorem readLoop_issues {G : Bytes → Bytes → Prop} {env : CallEnv} {i : Fin 10}
    {want timeout : UInt64} : ∀ {fuel turn : Nat} {got : List PassThruMsg} {d : OpDevice}
      {r : ReadLoop}, readLoop env i want timeout fuel turn got d = some r → Issues G d r.dev
  | 0, _, _, _, _, h => by cases h
  | fuel + 1, turn, got, d, r, h => by
      have hheard : Issues G d (arrivals d (env.wait turn)) :=
        .silent (arrivals_steady d (env.wait turn)).silent
      have hturn : Issues G d (opDevicePop (arrivals d (env.wait turn)) i).2.2 :=
        hheard.after (opDevicePop_silent _ i)
      unfold readLoop at h
      simp only at h
      split at h
      · split at h
        · cases h
          exact hturn
        · exact hturn.trans (readLoop_issues h)
      · split at h
        · cases h
          exact hturn
        · exact hturn.trans (readLoop_issues h)
      · cases h
        exact hturn

theorem readEnd_silent (s : Driver) (i : Fin 10) (want timeout : UInt64) (r : ReadLoop) :
    Silent r.dev (readEnd s i want timeout r).drv.dev := by
  unfold readEnd
  split
  · simp only [Ret.writing_drv]
    split <;> rw [Driver.fail_dev] <;> exact Silent.refl r.dev
  · have htake : Silent r.dev (opDeviceTakeDropped r.dev i).2 := by
      unfold opDeviceTakeDropped
      split
      · exact Silent.refl r.dev
      · exact silent_setCh r.dev i _
    simp only [Ret.writing_drv]
    repeat' split
    all_goals exact htake

theorem passThruReadMsgs_issues {G : Bytes → Bytes → Prop} {fuel : Nat} {env : CallEnv}
    {s : Driver} {ch timeout : UInt64} {pMsg : Bool} {pNumMsgs : Option UInt64}
    {r : Ret (List PassThruMsg)}
    (h : passThruReadMsgs fuel env s ch pMsg pNumMsgs timeout = some r) :
    Issues G s.dev r.drv.dev := by
  unfold passThruReadMsgs at h
  simp only at h
  split at h
  · cases h
    rw [Driver.fail_dev]
    exact Issues.refl s.dev
  split at h
  · cases h
    rw [Driver.fail_dev]
    exact Issues.refl s.dev
  split at h
  · cases h
    rw [Ret.writing_drv, Driver.fail_dev]
    exact Issues.refl s.dev
  split at h
  · cases h
    rw [Ret.writing_drv, Driver.fail_dev]
    exact Issues.refl s.dev
  split at h
  · cases h
    exact Issues.refl s.dev
  · obtain ⟨l, hl, rfl⟩ := Option.map_eq_some_iff.mp h
    exact (readLoop_issues hl).after (readEnd_silent s.errClear _ _ timeout l)

/-- The size check goes by the channel's protocol, which no command changes. -/
theorem msgOk_kept {d : OpDevice} {s : Driver} (h : Kept d s.dev) (i : Fin 10) (m : PassThruMsg) :
    (msgOk s i m).code = (msgOk { dev := d } i m).code := by
  have hbase : (s.dev.ch i).base = (d.ch i).base := by
    unfold OpChannel.base
    rw [h.protocol i]
  unfold msgOk
  simp only
  rw [hbase]
  split
  · rfl
  split
  · rfl
  · rfl

/-- `write_one` gives the transmit of a message that passes its checks. -/
theorem writeOne_issues {G : Bytes → Bytes → Prop} (x : Exchange) (s : Driver) (i : Fin 10)
    (m : PassThruMsg) (timeoutMs : UInt32)
    (h : (msgOk s i m).code = statusNoerror →
      G (opCmdTransmit i.val m.dataSize.toNat m.txFlags.toUInt32 (budgetUs s.dev i timeoutMs))
        m.payload) : Issues G s.dev (writeOne x s i m timeoutMs).drv.dev := by
  unfold writeOne
  simp only
  split
  · rw [msgOk_dev]
    exact Issues.refl s.dev
  rename_i hok
  have hg := h (Decidable.not_not.mp hok)
  split
  · exact Issues.refl s.dev
  split
  · exact .command x 1000 false hg
  · exact simpleCmd_issues x s.dev timeoutMs hg

section Calls

variable (env : CallEnv) (s : Driver)

/-- The loop of a write, `sent` messages in, on a device that has the channels of `d`. -/
theorem writeLoop_issues {G : Bytes → Bytes → Prop} {d : OpDevice} {i : Fin 10}
    {msgs : Nat → PassThruMsg} {want timeout : UInt64}
    (hg : ∀ k, k < want.toNat →
      (timeout ≠ 0 → 0 < remainingMs timeout (elapsedMs (env.clock 0) (env.clock (k + 1)))) →
      (msgOk { dev := d } i (msgs k)).code = statusNoerror →
      G (opCmdTransmit i.val (msgs k).dataSize.toNat (msgs k).txFlags.toUInt32
          (budgetUs d i (writeWait timeout (elapsedMs (env.clock 0) (env.clock (k + 1))))))
        (msgs k).payload)
    (left : Nat) : ∀ (sent : Nat) (s : Driver), sent + left = want.toNat → Kept d s.dev →
      Issues G s.dev (writeLoop env i msgs want timeout left sent s).drv.dev := by
  induction left with
  | zero => exact fun _ s _ _ => Issues.refl s.dev
  | succ left ih =>
      intro sent s hsent hkept
      have hwritten := writeOne_kept (env.exchange sent) s i (msgs sent)
        (writeWait timeout (elapsedMs (env.clock 0) (env.clock (sent + 1))))
      unfold writeLoop
      simp only
      split
      · rw [Ret.writing_drv, Driver.failText_dev]
        exact Issues.refl s.dev
      rename_i htime
      have hone : Issues G s.dev (writeOne (env.exchange sent) s i (msgs sent)
          (writeWait timeout (elapsedMs (env.clock 0) (env.clock (sent + 1))))).drv.dev := by
        refine writeOne_issues _ s i _ _ ?_
        intro hok
        rw [budgetUs_kept hkept]
        refine hg sent (by omega) ?_ ((msgOk_kept hkept i _).symm.trans hok)
        intro ht
        exact Int.lt_of_not_ge fun hle => htime ⟨ht, hle⟩
      split
      · rw [Ret.writing_drv, Driver.fail_dev]
        exact hone
      · exact hone.trans (ih (sent + 1) _ (by omega) (hkept.trans hwritten))

theorem passThruWriteMsgs_issues (ch : UInt64) (pMsg : Option (Nat → PassThruMsg))
    (pNumMsgs : Option UInt64) (timeout : UInt64) :
    Issues (Call.Gives env s.dev (.passThruWriteMsgs ch pMsg pNumMsgs timeout)) s.dev
      (passThruWriteMsgs env s ch pMsg pNumMsgs timeout).drv.dev := by
  unfold passThruWriteMsgs
  simp only
  split
  · rw [Driver.fail_dev]
    exact Issues.refl s.dev
  split
  · rw [Driver.fail_dev]
    exact Issues.refl s.dev
  rename_i want
  split
  · rw [Ret.writing_drv, Driver.fail_dev]
    exact Issues.refl s.dev
  rename_i hmsg
  split
  · rw [Ret.writing_drv, Driver.fail_dev]
    exact Issues.refl s.dev
  rename_i i hi
  refine writeLoop_issues env (d := s.dev) ?_ want.toNat 0 s.errClear (Nat.zero_add _)
    (Kept.refl s.dev)
  intro k hk htime hok
  cases pMsg with
  | none =>
      -- no array, so nothing was to be written
      have hzero : ¬0 < want := by simpa using hmsg
      have hpos : (0 : UInt64) < want := UInt64.lt_iff_toNat_lt.mpr (Nat.zero_lt_of_lt hk)
      exact absurd hpos hzero
  | some msgs => exact .writes ch msgs want timeout i k hi hk htime hok

theorem passThruStartPeriodicMsg_issues (ch : UInt64) (pMsg : Option PassThruMsg) (p : Bool)
    (interval : UInt64) :
    Issues (Call.Gives env s.dev (.passThruStartPeriodicMsg ch pMsg p interval)) s.dev
      (passThruStartPeriodicMsg env s ch pMsg p interval).drv.dev := by
  unfold passThruStartPeriodicMsg
  simp only
  split
  · rw [Driver.fail_dev]
    exact Issues.refl s.dev
  split
  · rename_i m
    split
    · rw [Driver.fail_dev]
      exact Issues.refl s.dev
    rename_i i hi
    split
    · rw [Driver.fail_dev]
      exact Issues.refl s.dev
    rename_i hinterval
    split
    · rw [Driver.fail_dev, msgOk_dev]
      exact Issues.refl s.dev
    rename_i hok
    split
    · rw [Driver.fail_dev]
      exact Issues.refl s.dev
    split
    · rw [Driver.fail_dev]
      exact Issues.refl s.dev
    obtain ⟨hzero, hlong⟩ := not_or.mp hinterval
    have hgood : (msgOk { dev := s.dev } i m).code = statusNoerror :=
      (msgOk_kept (s := s.errClear) (Kept.refl s.dev) i m).symm.trans (Decidable.not_not.mp hok)
    have hcmd := simpleCmd_issues (env.exchange 0) s.dev opDefaultCmdMs
      (@Call.Gives.startsPeriodic env s.dev ch m interval i hi hzero
        (Nat.le_of_not_lt hlong) hgood)
    split
    · rw [Driver.fail_dev]
      exact hcmd
    split
    · rw [Driver.fail_dev]
      exact hcmd
    · rw [Driver.done_dev]
      exact hcmd.after (silent_setCh _ i _)
  · rw [Driver.fail_dev]
    exact Issues.refl s.dev

theorem passThruStopPeriodicMsg_issues (ch id : UInt64) :
    Issues (Call.Gives env s.dev (.passThruStopPeriodicMsg ch id)) s.dev
      (passThruStopPeriodicMsg env s ch id).drv.dev := by
  unfold passThruStopPeriodicMsg
  simp only
  split
  · rw [Driver.fail_dev]
    exact Issues.refl s.dev
  split
  · rw [Driver.fail_dev]
    exact Issues.refl s.dev
  rename_i i hi
  split
  · rw [Driver.fail_dev]
    exact Issues.refl s.dev
  rename_i hslot
  rw [Driver.failed_dev]
  have hcmd := simpleCmd_issues (env.exchange 0) s.dev opDefaultCmdMs
    (@Call.Gives.stopsPeriodic env s.dev ch id i hi)
  unfold periodicStop
  rw [periodic_found hslot]
  simp only
  split
  · exact hcmd.after (silent_setCh _ i _)
  · exact hcmd

/-- `PassThruStartMsgFilter` from its command on; the command is there only for a length the
    encoder takes. -/
theorem startFilter_issues {G : Bytes → Bytes → Prop} (i : Fin 10) (type : UInt64)
    (msgs : List PassThruMsg) (flags : UInt64) (each : Nat)
    (h : 1 ≤ each → each ≤ 255 → G (opCmdFilter i.val type.toUInt32 flags.toUInt32 each)
      (msgs.map fun m => m.bytes each).flatten) :
    Issues G s.dev (startFilter env s i type msgs flags each).drv.dev := by
  unfold startFilter
  simp only
  split
  · rw [Driver.fail_dev]
    exact Issues.refl s.dev
  rename_i hline
  have hsize : 1 ≤ each ∧ each ≤ 255 := by
    unfold opCmdFilter at hline
    by_cases hbad : each = 0 ∨ 255 < each
    · rw [if_pos hbad] at hline
      exact absurd rfl hline
    · omega
  have hcmd := simpleCmd_issues (env.exchange 0) s.dev opDefaultCmdMs (h hsize.1 hsize.2)
  split
  · rw [Driver.fail_dev]
    exact hcmd
  split
  · rw [Driver.fail_dev]
    exact hcmd
  · rw [Driver.done_dev]
    exact hcmd

theorem passThruStartMsgFilter_issues (ch type : UInt64) (pMask pPattern pFlow : Option PassThruMsg)
    (p : Bool) :
    Issues (Call.Gives env s.dev (.passThruStartMsgFilter ch type pMask pPattern pFlow p)) s.dev
      (passThruStartMsgFilter env s ch type pMask pPattern pFlow p).drv.dev := by
  have hstart := passThruStartMsgFilter_start env s ch type pMask pPattern pFlow p
  generalize passThruStartMsgFilter env s ch type pMask pPattern pFlow p = ret at hstart ⊢
  cases hstart with
  | failed code what hcode =>
      rw [Driver.fail_dev]
      exact Issues.refl s.dev
  | sent i mask pattern flow hi hflow hcount hsame =>
      refine startFilter_issues env s.errClear i type _ _ _ ?_
      intro hlow hhigh
      exact .startsFilter ch type mask pattern pFlow flow p i hi hflow hcount hlow hhigh hsame

theorem passThruStopMsgFilter_issues (ch id : UInt64) :
    Issues (Call.Gives env s.dev (.passThruStopMsgFilter ch id)) s.dev
      (passThruStopMsgFilter env s ch id).drv.dev := by
  unfold passThruStopMsgFilter
  simp only
  split
  · rw [Driver.fail_dev]
    exact Issues.refl s.dev
  split
  · rw [Driver.fail_dev]
    exact Issues.refl s.dev
  · rename_i i hi
    rw [Driver.failed_dev]
    exact simpleCmd_issues _ s.dev _ (.stopsFilter ch id i hi)

end Calls

/-! ## 5. Pins and ioctls -/

theorem silent_pinsAfter (d : OpDevice) (pin voltage : UInt64) :
    Silent d (pinsAfter d pin voltage) := by
  obtain ⟨hopened, hnext⟩ := pinsAfter_session d pin voltage
  exact ⟨pinsAfter_log d pin voltage, hnext, fun h => hopened.symm.trans h⟩

section Calls

variable (env : CallEnv) (s : Driver)

theorem passThruSetProgrammingVoltage_issues (id pin voltage : UInt64) :
    Issues (Call.Gives env s.dev (.passThruSetProgrammingVoltage id pin voltage)) s.dev
      (passThruSetProgrammingVoltage env s id pin voltage).drv.dev := by
  have hcmd := simpleCmd_issues (env.exchange 0) s.dev opDefaultCmdMs
    (@Call.Gives.setsVoltage env s.dev id pin voltage)
  unfold passThruSetProgrammingVoltage
  simp only
  split
  · rw [Driver.fail_dev]
    exact Issues.refl s.dev
  split
  · rw [Driver.failText_dev]
    exact Issues.refl s.dev
  split
  · rw [Driver.failText_dev]
    exact Issues.refl s.dev
  split
  · rw [Driver.fail_dev]
    exact Issues.refl s.dev
  split
  · rw [Driver.fail_dev]
    exact hcmd
  · rw [Driver.done_dev]
    exact hcmd.after (silent_pinsAfter _ pin voltage)

theorem ioctlReadPin_issues {G : Bytes → Bytes → Prop} (d : OpDevice) (pin : UInt32) (out : Bool)
    (h : G (opCmdReadPin pin) []) : Issues G d (ioctlReadPin env d pin out).2.2 := by
  have hcmd := simpleCmd_issues (env.exchange 0) d opDefaultCmdMs h
  unfold ioctlReadPin
  simp only
  split
  · exact Issues.refl d
  split
  · exact hcmd
  split
  · exact hcmd
  · exact hcmd

theorem getConfigLoop_issues {G : Bytes → Bytes → Prop} {i : Fin 10} {list : Nat → UInt64 × UInt64}
    {n : Nat} (h : ∀ k, k < n → G (opCmdGetConfig i.val (list k).1.toUInt32) []) (left : Nat) :
    ∀ (k rc : Nat) (values : List (Nat × UInt64)) (d : OpDevice), k + left = n →
      Issues G d (getConfigLoop env i list left k rc values d).2.2 := by
  induction left with
  | zero => exact fun _ _ _ d _ => Issues.refl d
  | succ left ih =>
      intro k rc values d hk
      unfold getConfigLoop
      exact (simpleCmd_issues _ d _ (h k (by omega))).trans (ih _ _ _ _ (by omega))

theorem setConfigLoop_issues {G : Bytes → Bytes → Prop} {i : Fin 10} {list : Nat → UInt64 × UInt64}
    {n : Nat}
    (h : ∀ k, k < n → G (opCmdSetConfig i.val (list k).1.toUInt32 (list k).2.toUInt32) [])
    (left : Nat) : ∀ (k rc : Nat) (d : OpDevice), k + left = n →
      Issues G d (setConfigLoop env i list left k rc d).2 := by
  induction left with
  | zero => exact fun _ _ d _ => Issues.refl d
  | succ left ih =>
      intro k rc d hk
      unfold setConfigLoop
      exact (simpleCmd_issues _ d _ (h k (by omega))).trans (ih _ _ _ (by omega))

/-- `ioctl_init` gives the command its arguments make. -/
theorem ioctlInit_issues {G : Bytes → Bytes → Prop} (i : Fin 10) (fiveBaud : Bool)
    (input : IoctlIn) (output : IoctlOut)
    (h : ∀ line payload, initCommand i fiveBaud input output = .ok (line, payload) →
      G line payload) :
    Issues G s.dev (ioctlInit env s i fiveBaud input output).2.2.dev := by
  unfold ioctlInit
  split
  · exact Issues.refl s.dev
  rename_i line payload hcmd
  have hone := simpleCmd_issues (env.exchange 0) s.dev 5000 (h line payload hcmd)
  split
  · exact Issues.refl s.dev
  simp only
  split
  · exact hone
  split
  · exact hone
  · exact hone

variable {env s}

theorem initCommand_fiveBaud {ch : UInt64} {i : Fin 10} (hi : channelOf s.dev ch = some i)
    {input : IoctlIn} {output : IoctlOut} {line payload : Bytes}
    (h : initCommand i true input output = .ok (line, payload)) :
    Call.Gives env s.dev (.passThruIoctl ch fiveBaudInit input output) line payload := by
  unfold initCommand at h
  rw [if_pos rfl] at h
  split at h
  · rename_i n bytes hbytes
    split at h
    · cases h
    split at h
    · cases h
    · cases h
      exact .fiveBaud ch input output i n bytes hi hbytes
  · cases h

theorem initCommand_fastInit {ch : UInt64} {i : Fin 10} (hi : channelOf s.dev ch = some i)
    {input : IoctlIn} {output : IoctlOut} {line payload : Bytes}
    (h : initCommand i false input output = .ok (line, payload)) :
    Call.Gives env s.dev (.passThruIoctl ch fastInit input output) line payload := by
  unfold initCommand at h
  rw [if_neg (by decide)] at h
  split at h
  · rename_i hmsg
    cases h
    exact .wakesUp ch input output i hi hmsg
  · rename_i m hmsg
    split at h
    · cases h
    · rename_i hsize
      cases h
      exact .requests ch input output i m hi hmsg
        (Nat.le_of_not_lt fun hlt => hsize (UInt64.lt_iff_toNat_lt.mpr hlt))

variable (env s)

theorem channelIoctl_issues {ch : UInt64} {i : Fin 10} (hi : channelOf s.dev ch = some i)
    {ioctlID : UInt64} (hname : (channelIoctlName ioctlID).isSome = true) (input : IoctlIn)
    (output : IoctlOut) :
    Issues (Call.Gives env s.dev (.passThruIoctl ch ioctlID input output)) s.dev
      (channelIoctl env s i ioctlID input output).drv.dev := by
  unfold channelIoctl
  by_cases h1 : ioctlID = getConfig
  · subst h1
    rw [if_pos rfl, Ret.writing_drv, Driver.failed_dev]
    unfold ioctlGetConfig
    cases hp : configParams input.config with
    | none => exact Issues.refl s.dev
    | some p =>
        exact getConfigLoop_issues env
          (fun k hk => .getsConfig ch input output i p k hi hp hk) p.1 0 _ _ _ (Nat.zero_add _)
  rw [if_neg h1]
  by_cases h2 : ioctlID = setConfig
  · subst h2
    rw [if_pos rfl]
    simp only
    rw [Driver.failed_dev]
    unfold ioctlSetConfig
    cases hp : configParams input.config with
    | none => exact Issues.refl s.dev
    | some p =>
        exact setConfigLoop_issues env
          (fun k hk => .setsConfig ch input output i p k hi hp hk) p.1 0 _ _ (Nat.zero_add _)
  rw [if_neg h2]
  by_cases h3 : ioctlID = fiveBaudInit
  · subst h3
    rw [if_pos rfl, Ret.writing_drv, Driver.failed_dev]
    exact ioctlInit_issues env s i true input output fun _ _ h => initCommand_fiveBaud hi h
  rw [if_neg h3]
  by_cases h4 : ioctlID = fastInit
  · subst h4
    rw [if_pos rfl, Ret.writing_drv, Driver.failed_dev]
    exact ioctlInit_issues env s i false input output fun _ _ h => initCommand_fastInit hi h
  rw [if_neg h4]
  by_cases h5 : ioctlID = clearTxBuffer
  · rw [if_pos h5, Driver.done_dev]
    exact Issues.refl s.dev
  rw [if_neg h5]
  by_cases h6 : ioctlID = clearRxBuffer
  · rw [if_pos h6, Driver.done_dev]
    exact .silent (silent_setCh s.dev i _)
  rw [if_neg h6]
  by_cases h7 : ioctlID = clearPeriodicMsgs
  · subst h7
    rw [if_pos rfl]
    have hcmd := simpleCmd_issues (env.exchange 0) s.dev opDefaultCmdMs
      (@Call.Gives.clearsPeriodic env s.dev ch input output i hi)
    simp only
    split
    · rw [Driver.fail_dev]
      exact hcmd
    · rw [Driver.done_dev]
      exact hcmd.after (silent_setCh _ i _)
  · have h8 : ioctlID = clearMsgFilters := by
      unfold channelIoctlName at hname
      rw [if_neg h1, if_neg h2, if_neg h3, if_neg h4, if_neg h5, if_neg h6, if_neg h7] at hname
      by_cases h : ioctlID = clearMsgFilters
      · exact h
      · rw [if_neg h] at hname
        cases hname
    subst h8
    rw [if_neg h7]
    simp only
    rw [Driver.failed_dev]
    exact simpleCmd_issues _ s.dev _ (.clearsFilters ch input output i hi)

theorem passThruIoctl_issues (ch ioctlID : UInt64) (input : IoctlIn) (output : IoctlOut) :
    Issues (Call.Gives env s.dev (.passThruIoctl ch ioctlID input output)) s.dev
      (passThruIoctl env s ch ioctlID input output).drv.dev := by
  unfold passThruIoctl
  simp only
  split
  · rw [Driver.fail_dev]
    exact Issues.refl s.dev
  by_cases h1 : ioctlID = readVbatt
  · subst h1
    rw [if_pos rfl, Ret.writing_drv, Driver.failed_dev]
    exact ioctlReadPin_issues env s.dev opPinVbatt output.value (.readsBattery ch input output)
  rw [if_neg h1]
  by_cases h2 : ioctlID = readProgVoltage
  · subst h2
    rw [if_pos rfl, Ret.writing_drv, Driver.failed_dev]
    exact ioctlReadPin_issues env s.dev _ output.value (.readsVoltage ch input output)
  rw [if_neg h2]
  cases hname : channelIoctlName ioctlID with
  | none =>
      simp only
      split <;> rw [Driver.fail_dev] <;> exact Issues.refl s.dev
  | some name =>
      simp only
      split
      · rw [Driver.fail_dev]
        exact Issues.refl s.dev
      · rename_i i hi
        exact channelIoctl_issues env s.errClear hi (by rw [hname]; rfl) input output

end Calls

/-! ## 6. Every call -/

/-- Where a call's commands begin: at the device it finds, or at a new session. -/
def Call.begins (env : CallEnv) (d : OpDevice) : Call → OpDevice → Prop
  | .passThruOpen _, d' => d' = d ∨ d' = newSession (opDeviceClose d) env.opening.clock
  | _, d' => d' = d

/-- **Every call that returns gave commands of its table, and did nothing else to the numbers.** -/
theorem call_issues {fuel : Nat} {env : CallEnv} {s s' : Driver} {c : Call} {code : Nat}
    (hrun : c.run fuel env s = some (code, s')) :
    ∃ d, c.begins env s.dev d ∧ Issues (c.Gives env s.dev) d s'.dev := by
  cases c with
  | passThruOpen p =>
      cases hrun
      rcases passThruOpen_issues env s p with e | h
      · refine ⟨s.dev, Or.inl rfl, ?_⟩
        rw [e]
        exact Issues.refl s.dev
      · exact ⟨_, Or.inr rfl, h⟩
  | passThruClose id =>
      cases hrun
      exact ⟨s.dev, rfl, passThruClose_issues env s id⟩
  | passThruConnect id protocolID flags baud p =>
      cases hrun
      exact ⟨s.dev, rfl, passThruConnect_issues env s id protocolID flags baud p⟩
  | passThruDisconnect ch =>
      cases hrun
      exact ⟨s.dev, rfl, passThruDisconnect_issues env s ch⟩
  | passThruReadMsgs ch p n timeout =>
      obtain ⟨r, hr, e⟩ := Option.map_eq_some_iff.mp hrun
      cases e
      exact ⟨s.dev, rfl, passThruReadMsgs_issues hr⟩
  | passThruWriteMsgs ch p n timeout =>
      cases hrun
      exact ⟨s.dev, rfl, passThruWriteMsgs_issues env s ch p n timeout⟩
  | passThruStartPeriodicMsg ch m p interval =>
      cases hrun
      exact ⟨s.dev, rfl, passThruStartPeriodicMsg_issues env s ch m p interval⟩
  | passThruStopPeriodicMsg ch id =>
      cases hrun
      exact ⟨s.dev, rfl, passThruStopPeriodicMsg_issues env s ch id⟩
  | passThruStartMsgFilter ch type mask pattern flow p =>
      cases hrun
      exact ⟨s.dev, rfl, passThruStartMsgFilter_issues env s ch type mask pattern flow p⟩
  | passThruStopMsgFilter ch id =>
      cases hrun
      exact ⟨s.dev, rfl, passThruStopMsgFilter_issues env s ch id⟩
  | passThruSetProgrammingVoltage id pin voltage =>
      cases hrun
      exact ⟨s.dev, rfl, passThruSetProgrammingVoltage_issues env s id pin voltage⟩
  | passThruReadVersion id p1 p2 p3 =>
      cases hrun
      refine ⟨s.dev, rfl, ?_⟩
      rw [passThruReadVersion_dev]
      exact Issues.refl s.dev
  | passThruGetLastError p =>
      cases hrun
      refine ⟨s.dev, rfl, ?_⟩
      rw [passThruGetLastError_dev]
      exact Issues.refl s.dev
  | passThruIoctl ch id input output =>
      cases hrun
      exact ⟨s.dev, rfl, passThruIoctl_issues env s ch id input output⟩

end Openport
