/-
  File:      Openport/Api/Entries.lean
  Subject:   The effect of every entry point that takes no line and no pin, and what
             the other three write.
-/
import Openport.Api.Effects

namespace Openport

/-! ## 1. Opening and closing -/

theorem passThruClose_effect (env : CallEnv) (s : Driver) (deviceID : UInt64) :
    Effect s.dev (passThruClose env s deviceID).drv.dev
      (Call.asks printed env s.dev (.passThruClose deviceID)) := by
  unfold passThruClose
  simp only
  split
  · rw [Driver.fail_dev]
    exact Effect.refl _ _
  · rw [Driver.failed_dev]
    obtain ⟨hc, hl⟩ := opDeviceClose_noNewLine
      (simpleCmd (env.exchange 0) s.errClear.dev opCmdReset [] opDefaultCmdMs).2.2
    exact (simpleCmd_effect _ _ (prints_emit _) (by decide) _ _).after hc hl

theorem passThruDisconnect_effect (env : CallEnv) (s : Driver) (channelID : UInt64) :
    Effect s.dev (passThruDisconnect env s channelID).drv.dev
      (Call.asks printed env s.dev (.passThruDisconnect channelID)) := by
  unfold passThruDisconnect
  simp only
  split
  · rw [Driver.fail_dev]
    exact Effect.refl _ _
  split
  · rw [Driver.fail_dev]
    exact Effect.refl _ _
  · rename_i i hi
    obtain ⟨-, hid⟩ := channelOf_some hi
    have hcmd : Effect s.dev (simpleCmd (env.exchange 0) s.errClear.dev (opCmdClose i.val) []
        opDefaultCmdMs).2.2 [⟨{ verb := 0x63, channel := some i.val }, []⟩] :=
      simpleCmd_effect _ s.dev (prints_emit _) (by simp) _ _
    rw [Driver.failed_dev]
    unfold opDeviceCloseChannel
    generalize simpleCmd (env.exchange 0) s.errClear.dev (opCmdClose i.val) [] opDefaultCmdMs = r
      at hcmd ⊢
    show Effect _ _ [⟨{ verb := 0x63, channel := some channelID.toNat }, []⟩]
    rw [hid]
    exact hcmd.setCh _ _ fun h => (nomatch h)

/-! ## 2. Reading and writing -/

theorem opDevicePop_noNewLine (d : OpDevice) (i : Fin 10) :
    NoNewLine d (opDevicePop d i).2.2 ∧ (opDevicePop d i).2.2.log = d.log := by
  unfold opDevicePop
  split
  · exact ⟨NoNewLine.refl d, rfl⟩
  split
  · obtain ⟨head, used, e⟩ := queuePop_ring (d.ch i)
    refine ⟨noNewLine_setCh ?_, rfl⟩
    intro h
    rw [e] at h ⊢
    exact ⟨h, rfl⟩
  · exact ⟨NoNewLine.refl d, rfl⟩

theorem readLoop_noNewLine {env : CallEnv} {i : Fin 10} {want timeout : UInt64} :
    ∀ {fuel turn : Nat} {got : List PassThruMsg} {d : OpDevice} {r : ReadLoop},
      readLoop env i want timeout fuel turn got d = some r → NoNewLine d r.dev ∧ r.dev.log = d.log
  | 0, _, _, _, _, h => by cases h
  | fuel + 1, turn, got, d, r, h => by
      obtain ⟨ha, hal⟩ := arrivals_noNewLine d (env.wait turn)
      obtain ⟨hp, hpl⟩ := opDevicePop_noNewLine (arrivals d (env.wait turn)) i
      have hturn : NoNewLine d (opDevicePop (arrivals d (env.wait turn)) i).2.2 := ha.trans hp
      have hlog := hpl.trans hal
      unfold readLoop at h
      simp only at h
      split at h
      · split at h
        · cases h
          exact ⟨hturn, hlog⟩
        · obtain ⟨hr, hrl⟩ := readLoop_noNewLine h
          exact ⟨hturn.trans hr, hrl.trans hlog⟩
      · split at h
        · cases h
          exact ⟨hturn, hlog⟩
        · obtain ⟨hr, hrl⟩ := readLoop_noNewLine h
          exact ⟨hturn.trans hr, hrl.trans hlog⟩
      · cases h
        exact ⟨hturn, hlog⟩

theorem readEnd_noNewLine (s : Driver) (i : Fin 10) (want timeout : UInt64) (r : ReadLoop) :
    NoNewLine r.dev (readEnd s i want timeout r).drv.dev ∧
      (readEnd s i want timeout r).drv.dev.log = r.dev.log := by
  unfold readEnd
  split
  · simp only [Ret.writing_drv]
    split <;> rw [Driver.fail_dev] <;> exact ⟨NoNewLine.refl r.dev, rfl⟩
  · have htake : NoNewLine r.dev (opDeviceTakeDropped r.dev i).2 ∧
        (opDeviceTakeDropped r.dev i).2.log = r.dev.log := by
      unfold opDeviceTakeDropped
      split
      · exact ⟨NoNewLine.refl r.dev, rfl⟩
      · exact ⟨noNewLine_setCh fun h => ⟨h, rfl⟩, rfl⟩
    simp only [Ret.writing_drv]
    repeat' split
    all_goals exact htake

theorem passThruReadMsgs_effect {fuel : Nat} {env : CallEnv} {s : Driver}
    {channelID timeout : UInt64}
    {pMsg : Bool} {pNumMsgs : Option UInt64} {r : Ret (List PassThruMsg)}
    (h : passThruReadMsgs fuel env s channelID pMsg pNumMsgs timeout = some r) :
    Effect s.dev r.drv.dev [] := by
  unfold passThruReadMsgs at h
  simp only at h
  split at h
  · cases h
    rw [Driver.fail_dev]
    exact Effect.refl s.dev _
  split at h
  · cases h
    rw [Driver.fail_dev]
    exact Effect.refl s.dev _
  split at h
  · cases h
    rw [Ret.writing_drv, Driver.fail_dev]
    exact Effect.refl s.dev _
  split at h
  · cases h
    rw [Ret.writing_drv, Driver.fail_dev]
    exact Effect.refl s.dev _
  split at h
  · cases h
    exact Effect.refl s.dev _
  · obtain ⟨l, hl, rfl⟩ := Option.map_eq_some_iff.mp h
    obtain ⟨h1, e1⟩ := readLoop_noNewLine hl
    obtain ⟨h2, e2⟩ := readEnd_noNewLine s.errClear _ _ timeout l
    exact Effect.silent (h1.trans h2) (e2.trans e1) []

theorem msgOk_dev (s : Driver) (i : Fin 10) (m : PassThruMsg) : (msgOk s i m).drv.dev = s.dev := by
  unfold msgOk
  simp only
  split
  · rw [Driver.failText_dev]
  split
  · rw [Driver.failText_dev]
  · rw [Driver.done_dev]

theorem opCmdTransmit_prints (w : UInt64 → Int) (hw : w = printed) (ch : Nat) (m : PassThruMsg)
    (budget : UInt32) : Prints (opCmdTransmit ch m.dataSize.toNat m.txFlags.toUInt32 budget)
      (askTransmit w ch m budget).command := by
  subst hw
  exact prints_unless (prints_emit _)

theorem writeOne_effect (x : Exchange) (s : Driver) (i : Fin 10) (m : PassThruMsg)
    (timeoutMs : UInt32) :
    Effect s.dev (writeOne x s i m timeoutMs).drv.dev
      [askTransmit printed i.val m (budgetUs s.dev i timeoutMs)] := by
  have hp := opCmdTransmit_prints printed rfl i.val m (budgetUs s.dev i timeoutMs)
  unfold writeOne
  simp only
  split
  · rw [msgOk_dev]
    exact Effect.refl s.dev _
  split
  · exact Effect.refl s.dev _
  split
  · exact cmdExchange_effect x s.dev hp (by simp [askTransmit]) m.payload 1000 false
  · exact simpleCmd_effect x s.dev hp (by simp [askTransmit]) m.payload timeoutMs

theorem writeOne_kept (x : Exchange) (s : Driver) (i : Fin 10) (m : PassThruMsg)
    (timeoutMs : UInt32) :
    Kept s.dev (writeOne x s i m timeoutMs).drv.dev := by
  unfold writeOne
  simp only
  split
  · rw [msgOk_dev]
    exact Kept.refl s.dev
  split
  · exact Kept.refl s.dev
  split
  · exact (cmdExchange_cases _ _ _ _ _ _).1
  · exact simpleCmd_kept _ _ _ _ _

/-- The budget goes by the channel's protocol, which no command changes. -/
theorem budgetUs_kept {d d' : OpDevice} (h : Kept d d') (i : Fin 10) (timeoutMs : UInt32) :
    budgetUs d' i timeoutMs = budgetUs d i timeoutMs := by
  unfold budgetUs OpChannel.base
  rw [h.protocol i]

theorem writeAsks_kept {d d' : OpDevice} (h : Kept d d') (w : UInt64 → Int)
    (env : CallEnv) (i : Fin 10)
    (msgs : Nat → PassThruMsg) (timeout : UInt64) (left : Nat) : ∀ sent : Nat,
      writeAsks w env d' i msgs timeout sent left = writeAsks w env d i msgs timeout sent left := by
  induction left with
  | zero => exact fun _ => rfl
  | succ left ih =>
      intro sent
      unfold writeAsks
      simp only [budgetUs_kept h, ih]

theorem writeLoop_effect (env : CallEnv) (i : Fin 10) (msgs : Nat → PassThruMsg)
    (want timeout : UInt64)
    (fuel : Nat) : ∀ (sent : Nat) (s : Driver),
      Effect s.dev (writeLoop env i msgs want timeout fuel sent s).drv.dev
        (writeAsks printed env s.dev i msgs timeout sent fuel) := by
  induction fuel with
  | zero => exact fun sent s => Effect.refl s.dev _
  | succ fuel ih =>
      intro sent s
      have hone := writeOne_effect (env.exchange sent) s i (msgs sent)
        (writeWait timeout (elapsedMs (env.clock 0) (env.clock (sent + 1))))
      have hkept := writeOne_kept (env.exchange sent) s i (msgs sent)
        (writeWait timeout (elapsedMs (env.clock 0) (env.clock (sent + 1))))
      unfold writeLoop writeAsks
      simp only
      split
      · rw [Ret.writing_drv, Driver.failText_dev]
        exact Effect.refl s.dev _
      split
      · rw [Ret.writing_drv, Driver.fail_dev]
        exact hone.mono (List.sublist_append_left _ _)
      · have hrest := ih (sent + 1) (writeOne (env.exchange sent) s i (msgs sent)
          (writeWait timeout (elapsedMs (env.clock 0) (env.clock (sent + 1))))).drv
        rw [writeAsks_kept hkept] at hrest
        exact hone.trans hrest

theorem passThruWriteMsgs_effect (env : CallEnv) (s : Driver) (channelID : UInt64)
    (pMsg : Option (Nat → PassThruMsg)) (pNumMsgs : Option UInt64) (timeout : UInt64) :
    Effect s.dev (passThruWriteMsgs env s channelID pMsg pNumMsgs timeout).drv.dev
      (Call.asks printed env s.dev (.passThruWriteMsgs channelID pMsg pNumMsgs timeout)) := by
  unfold passThruWriteMsgs Call.asks
  simp only
  split
  · rw [Driver.fail_dev]
    exact Effect.refl s.dev _
  split
  · rw [Driver.fail_dev]
    exact Effect.refl s.dev _
  split
  · rw [Ret.writing_drv, Driver.fail_dev]
    exact Effect.refl s.dev _
  · cases hc : channelOf s.dev channelID with
    | none =>
        have hc' : channelOf s.errClear.dev channelID = none := hc
        rw [hc']
        simp only
        rw [Ret.writing_drv, Driver.fail_dev]
        exact Effect.refl s.dev _
    | some i =>
        have hc' : channelOf s.errClear.dev channelID = some i := hc
        rw [hc']
        exact writeLoop_effect env i _ _ timeout _ 0 s.errClear

/-! ## 3. Periodic messages and filters -/

/-- An interval the check lets through keeps its microseconds below 2 ^ 32. -/
theorem interval_us {v : UInt64} (h : v.toNat ≤ 0xFFFFFFFF / 1000) :
    arg (v.toUInt32 * 1000) = printed v * 1000 := by
  have hv : v.toUInt32.toNat = v.toNat := by
    rw [UInt64.toNat_toUInt32]
    exact Nat.mod_eq_of_lt (by omega)
  have hm : (v.toUInt32 * 1000).toNat = v.toNat * 1000 := by
    rw [UInt32.toNat_mul, hv]
    exact Nat.mod_eq_of_lt (by
      show v.toNat * 1000 < 2 ^ 32
      omega)
  unfold printed arg
  rw [hm, hv]
  omega

theorem passThruStartPeriodicMsg_effect (env : CallEnv) (s : Driver) (channelID : UInt64)
    (pMsg : Option PassThruMsg) (pMsgID : Bool) (timeInterval : UInt64) :
    Effect s.dev (passThruStartPeriodicMsg env s channelID pMsg pMsgID timeInterval).drv.dev
      (Call.asks printed env s.dev
        (.passThruStartPeriodicMsg channelID pMsg pMsgID timeInterval)) := by
  have hfail : ∀ (code : Nat) (what : String) (asks : List Ask),
      Effect s.dev (s.errClear.fail code what : Ret UInt64).drv.dev asks := fun code what asks => by
    rw [Driver.fail_dev]
    exact Effect.refl s.dev asks
  unfold passThruStartPeriodicMsg
  simp only
  split
  · exact hfail _ _ _
  split
  · rename_i m
    split
    · exact hfail _ _ _
    rename_i i hi
    split
    · exact hfail _ _ _
    rename_i hinterval
    split
    · rw [Driver.fail_dev, msgOk_dev]
      exact Effect.refl s.dev _
    split
    · exact hfail _ _ _
    split
    · exact hfail _ _ _
    have hcmd : Effect s.dev (simpleCmd (env.exchange 0) s.errClear.dev
        (opCmdPeriodicStart i.val (timeInterval.toUInt32 * 1000) m.txFlags.toUInt32
          m.dataSize.toNat)
        m.payload opDefaultCmdMs).2.2
        (Call.asks printed env s.dev
          (.passThruStartPeriodicMsg channelID (some m) true timeInterval)) := by
      have hus : arg (timeInterval.toUInt32 * 1000) = printed timeInterval * 1000 :=
        interval_us (Nat.le_of_not_lt fun h => hinterval (Or.inr h))
      show Effect _ _ [⟨{ verb := 0x6d, channel := some channelID.toNat
                          args := [printed timeInterval * 1000, 0, printed m.txFlags,
                            (m.dataSize.toNat : Int)] }, m.payload⟩]
      rw [(channelOf_some hi).2, ← hus]
      exact simpleCmd_effect _ s.dev (prints_unless (prints_emit _)) (by simp) _ _
    generalize simpleCmd (env.exchange 0) s.errClear.dev
      (opCmdPeriodicStart i.val (timeInterval.toUInt32 * 1000) m.txFlags.toUInt32 m.dataSize.toNat)
      m.payload opDefaultCmdMs = r at hcmd ⊢
    split
    · rw [Driver.fail_dev]
      exact hcmd
    split
    · rw [Driver.fail_dev]
      exact hcmd
    · rw [Driver.done_dev]
      exact hcmd.setCh _ _ fun h => ⟨h, rfl⟩
  · exact hfail _ _ _

/-- What `findIdx` finds is what it looked for. -/
theorem periodic_found {ids : List UInt32} {id : UInt32} (h : ids.findIdx (· == id) ≠ ids.length) :
    ids.getD (ids.findIdx (· == id)) 0 = id := by
  have hlt : ids.findIdx (· == id) < ids.length := Nat.lt_of_le_of_ne List.findIdx_le_length h
  rw [List.getD_eq_getElem _ _ hlt]
  exact beq_iff_eq.mp (List.findIdx_getElem (w := hlt))

theorem passThruStopPeriodicMsg_effect (env : CallEnv) (s : Driver) (channelID msgID : UInt64) :
    Effect s.dev (passThruStopPeriodicMsg env s channelID msgID).drv.dev
      (Call.asks printed env s.dev (.passThruStopPeriodicMsg channelID msgID)) := by
  unfold passThruStopPeriodicMsg
  simp only
  split
  · rw [Driver.fail_dev]
    exact Effect.refl s.dev _
  split
  · rw [Driver.fail_dev]
    exact Effect.refl s.dev _
  rename_i i hi
  split
  · rw [Driver.fail_dev]
    exact Effect.refl s.dev _
  rename_i hslot
  rw [Driver.failed_dev]
  have hcmd : Effect s.dev (simpleCmd (env.exchange 0) s.errClear.dev
      (opCmdPeriodicStop i.val msgID.toUInt32) [] opDefaultCmdMs).2.2
      (Call.asks printed env s.dev (.passThruStopPeriodicMsg channelID msgID)) := by
    show Effect _ _ [⟨{ verb := 0x6e, channel := some channelID.toNat, args := [printed msgID] },
      []⟩]
    rw [(channelOf_some hi).2]
    exact simpleCmd_effect _ s.dev (prints_emit _) (by simp) _ _
  unfold periodicStop
  rw [periodic_found hslot]
  simp only
  generalize simpleCmd (env.exchange 0) s.errClear.dev (opCmdPeriodicStop i.val msgID.toUInt32) []
    opDefaultCmdMs = r at hcmd ⊢
  split
  · exact hcmd.setCh _ _ fun h => ⟨h, rfl⟩
  · exact hcmd

theorem startFilter_effect (env : CallEnv) (s : Driver) (i : Fin 10) (filterType : UInt64)
    (msgs : List PassThruMsg) (flags : UInt64) (each : Nat) :
    Effect s.dev (startFilter env s i filterType msgs flags each).drv.dev
      [⟨{ verb := 0x66, channel := some i.val
          args := [printed filterType, printed flags, (each : Int)] },
        (msgs.map fun m => m.bytes each).flatten⟩] := by
  have hp : Prints (opCmdFilter i.val filterType.toUInt32 flags.toUInt32 each)
      { verb := 0x66, channel := some i.val
        args := [printed filterType, printed flags, (each : Int)] } := prints_unless (prints_emit _)
  have hcmd := simpleCmd_effect (env.exchange 0) s.dev hp (by simp)
    (msgs.map fun m => m.bytes each).flatten opDefaultCmdMs
  unfold startFilter
  simp only
  split
  · rw [Driver.fail_dev]
    exact Effect.refl s.dev _
  split
  · rw [Driver.fail_dev]
    exact hcmd
  split
  · rw [Driver.fail_dev]
    exact hcmd
  · rw [Driver.done_dev]
    exact hcmd

/-- A filter whose messages are there appends as many as its type takes. -/
theorem filter_count {type : UInt32} {pFlow : Option PassThruMsg} (mask pattern : PassThruMsg)
    (hneed : ¬opFilterMsgCount type = 0)
    (hflow : ¬(opFilterMsgCount type = 3 ∧ pFlow.isNone = true)) :
    (mask :: pattern :: (if opFilterMsgCount type = 2 then none else pFlow).toList).length =
      opFilterMsgCount type := by
  have hcases : opFilterMsgCount type = 2 ∨ opFilterMsgCount type = 3 := by
    unfold opFilterMsgCount at hneed ⊢
    split
    · exact Or.inl rfl
    split
    · exact Or.inr rfl
    · rename_i h1 h3
      rw [if_neg h1, if_neg h3] at hneed
      exact absurd rfl hneed
  rcases hcases with h | h
  · rw [h, if_pos rfl]
    rfl
  · rw [h, if_neg (by decide)]
    cases pFlow with
    | none => exact absurd ⟨h, rfl⟩ hflow
    | some m => rfl

/-- How `PassThruStartMsgFilter` goes on from its arguments: it fails before the wire, or gives
    the command of a mask, a pattern and a flow-control message, as many as the type takes and
    all of the mask's length. -/
inductive FilterStart (env : CallEnv) (s : Driver) (channelID filterType : UInt64)
    (pFlowControlMsg : Option PassThruMsg) :
    Option PassThruMsg → Option PassThruMsg → Ret UInt64 → Prop where
  | failed {pMaskMsg pPatternMsg : Option PassThruMsg} (code : Nat) (what : String)
    (hcode : code ≠ statusNoerror) :
    FilterStart env s channelID filterType pFlowControlMsg pMaskMsg pPatternMsg
      (s.errClear.fail code what)
  | sent (i : Fin 10) (mask pattern : PassThruMsg) (flow : Option PassThruMsg)
    (hi : channelOf s.dev channelID = some i)
    (hflow : (if opFilterMsgCount filterType.toUInt32 = 2 then none else pFlowControlMsg) = flow)
    (hcount : (mask :: pattern :: flow.toList).length = opFilterMsgCount filterType.toUInt32)
    (hsame : ∀ m ∈ mask :: pattern :: flow.toList, m.dataSize.toNat = mask.dataSize.toNat) :
    FilterStart env s channelID filterType pFlowControlMsg (some mask) (some pattern)
      (startFilter env s.errClear i filterType (mask :: pattern :: flow.toList)
        (flow.getD mask).txFlags mask.dataSize.toNat)

theorem passThruStartMsgFilter_start (env : CallEnv) (s : Driver) (channelID filterType : UInt64)
    (pMaskMsg pPatternMsg pFlowControlMsg : Option PassThruMsg) (pFilterID : Bool) :
    FilterStart env s channelID filterType pFlowControlMsg pMaskMsg pPatternMsg
      (passThruStartMsgFilter env s channelID filterType pMaskMsg pPatternMsg pFlowControlMsg
        pFilterID) := by
  unfold passThruStartMsgFilter
  simp only
  split
  · exact .failed _ _ (by decide)
  split
  · exact .failed _ _ (by decide)
  rename_i i hi
  split
  · exact .failed _ _ (by decide)
  split
  · exact .failed _ _ (by decide)
  rename_i hneed
  split
  · rename_i mask pattern
    split
    · exact .failed _ _ (by decide)
    rename_i hflow
    have hcount := filter_count mask pattern hneed hflow
    generalize hf : (if opFilterMsgCount filterType.toUInt32 = 2 then none else pFlowControlMsg) =
      flow at hcount
    split
    · exact .failed _ _ (by decide)
    split
    · exact .failed _ _ (by decide)
    split
    · exact .failed _ _ (by decide)
    · rename_i hsame
      exact .sent i mask pattern flow hi hf hcount (by simpa using hsame)
  · exact .failed _ _ (by decide)
theorem passThruStartMsgFilter_effect (env : CallEnv) (s : Driver) (channelID filterType : UInt64)
    (pMaskMsg pPatternMsg pFlowControlMsg : Option PassThruMsg) (pFilterID : Bool) :
    Effect s.dev (passThruStartMsgFilter env s channelID filterType pMaskMsg pPatternMsg
      pFlowControlMsg
      pFilterID).drv.dev (Call.asks printed env s.dev (.passThruStartMsgFilter channelID filterType
        pMaskMsg pPatternMsg pFlowControlMsg pFilterID)) := by
  have hstart := passThruStartMsgFilter_start env s channelID filterType pMaskMsg pPatternMsg
    pFlowControlMsg pFilterID
  show Effect _ _ (filterAsks printed channelID.toNat filterType pMaskMsg pPatternMsg
    pFlowControlMsg)
  generalize passThruStartMsgFilter env s channelID filterType pMaskMsg pPatternMsg
    pFlowControlMsg pFilterID = ret at hstart ⊢
  cases hstart with
  | failed code what =>
      rw [Driver.fail_dev]
      exact Effect.refl s.dev _
  | sent i mask pattern flow hi hflow hcount hsame =>
      -- every message has the mask's length, so each is appended whole
      have hpay : ((mask :: pattern :: flow.toList).map PassThruMsg.payload).flatten =
          ((mask :: pattern :: flow.toList).map fun m => m.bytes mask.dataSize.toNat).flatten :=
        congrArg List.flatten (List.map_congr_left fun m hm => congrArg m.bytes (hsame m hm))
      unfold filterAsks
      simp only [hflow]
      rw [if_pos ⟨hcount, hsame⟩, hpay, (channelOf_some hi).2]
      exact startFilter_effect env s.errClear i filterType _ _ _

theorem passThruStopMsgFilter_effect (env : CallEnv) (s : Driver) (channelID filterID : UInt64) :
    Effect s.dev (passThruStopMsgFilter env s channelID filterID).drv.dev
      (Call.asks printed env s.dev (.passThruStopMsgFilter channelID filterID)) := by
  unfold passThruStopMsgFilter
  simp only
  split
  · rw [Driver.fail_dev]
    exact Effect.refl s.dev _
  split
  · rw [Driver.fail_dev]
    exact Effect.refl s.dev _
  rename_i i hi
  rw [Driver.failed_dev]
  show Effect _ _ [⟨{ verb := 0x6b, channel := some channelID.toNat, args := [printed filterID] },
    []⟩]
  rw [(channelOf_some hi).2]
  exact simpleCmd_effect _ s.dev (prints_emit _) (by simp) _ _

/-! ## 4. Ioctls -/

theorem getConfigLoop_effect (env : CallEnv) (ch : Fin 10) (list : Nat → UInt64 × UInt64)
    (fuel : Nat) :
    ∀ (i rc : Nat) (values : List (Nat × UInt64)) (d : OpDevice),
      Effect d (getConfigLoop env ch list fuel i rc values d).2.2 (configAsks (fun v =>
        ⟨{ verb := 0x67, channel := some ch.val, args := [printed v.1] }, []⟩) list i fuel) := by
  induction fuel with
  | zero => exact fun _ _ _ d => Effect.refl d _
  | succ fuel ih =>
      intro i rc values d
      unfold getConfigLoop
      exact (simpleCmd_effect _ _ (prints_emit _) (by simp) _ _).trans (ih _ _ _ _)

theorem setConfigLoop_effect (env : CallEnv) (ch : Fin 10) (list : Nat → UInt64 × UInt64)
    (fuel : Nat) :
    ∀ (i rc : Nat) (d : OpDevice),
      Effect d (setConfigLoop env ch list fuel i rc d).2 (configAsks (fun v =>
        ⟨{ verb := 0x73, channel := some ch.val, args := [printed v.1, printed v.2] }, []⟩)
          list i fuel) := by
  induction fuel with
  | zero => exact fun _ _ d => Effect.refl d _
  | succ fuel ih =>
      intro i rc d
      unfold setConfigLoop
      exact (simpleCmd_effect _ _ (prints_emit _) (by simp) _ _).trans (ih _ _ _)

theorem ioctlReadPin_effect (env : CallEnv) (d : OpDevice) (pin : UInt32) (out : Bool) :
    Effect d (ioctlReadPin env d pin out).2.2 [⟨{ verb := 0x72, args := [arg pin] }, []⟩] := by
  have hcmd := simpleCmd_effect (env.exchange 0) d
    (prints_emit { verb := 0x72, args := [arg pin] }) (by simp) [] opDefaultCmdMs
  unfold ioctlReadPin
  simp only
  split
  · exact Effect.refl d _
  split
  · exact hcmd
  split <;> exact hcmd

theorem initCommand_prints {ch : Fin 10} {fiveBaud : Bool} {input : IoctlIn} {output : IoctlOut}
    {line payload : Bytes} (h : initCommand ch fiveBaud input output = .ok (line, payload)) :
    ∃ c : Command, c.verb ≠ 0 ∧ Prints line c ∧ initAsks ch.val fiveBaud input =
      [⟨c, payload⟩] := by
  unfold initCommand at h
  unfold initAsks
  cases fiveBaud with
  | true =>
      rw [if_pos rfl] at h ⊢
      split at h
      · rename_i n bytes hb
        rw [hb]
        split at h
        · cases h
        split at h
        · cases h
        · cases h
          exact ⟨{ verb := 0x77, channel := some ch.val
                   args := [((bytes 0).toNat : Int)] }, by simp,
            prints_emit _, rfl⟩
      · cases h
  | false =>
      rw [if_neg (by decide)] at h ⊢
      cases hm : input.msg with
      | none =>
          rw [hm] at h
          cases h
          exact ⟨{ verb := 0x79, channel := some ch.val, args := [0, 0] }, by simp,
            prints_unless (prints_emit _), rfl⟩
      | some m =>
          rw [hm] at h
          simp only at h
          split at h
          · cases h
          · cases h
            exact ⟨{ verb := 0x79, channel := some ch.val
                     args := [(m.dataSize.toNat : Int), 0] }, by simp,
              prints_unless (prints_emit _), rfl⟩

theorem ioctlInit_effect (env : CallEnv) (s : Driver) (ch : Fin 10) (fiveBaud : Bool)
    (input : IoctlIn)
    (output : IoctlOut) :
    Effect s.dev (ioctlInit env s ch fiveBaud input output).2.2.dev
      (initAsks ch.val fiveBaud input) := by
  unfold ioctlInit
  split
  · exact Effect.refl s.dev _
  rename_i line payload hcmd
  obtain ⟨c, hv, hp, hask⟩ := initCommand_prints hcmd
  rw [hask]
  have heff := simpleCmd_effect (env.exchange 0) s.dev hp hv payload 5000
  split
  · exact Effect.refl s.dev _
  simp only
  split
  · exact heff
  split
  · exact heff
  · exact heff

theorem channelIoctl_effect (env : CallEnv) (s : Driver) (i : Fin 10) (ioctlID : UInt64)
    (input : IoctlIn)
    (output : IoctlOut) :
    Effect s.dev (channelIoctl env s i ioctlID input output).drv.dev
      (channelAsks printed i.val ioctlID input) := by
  unfold channelIoctl channelAsks
  by_cases h1 : ioctlID = getConfig
  · rw [if_pos h1, if_pos h1]
    simp only
    rw [Ret.writing_drv, Driver.failed_dev]
    unfold ioctlGetConfig
    cases configParams input.config with
    | none => exact Effect.refl s.dev _
    | some p => exact getConfigLoop_effect _ _ _ _ _ _ _ _
  rw [if_neg h1, if_neg h1]
  by_cases h2 : ioctlID = setConfig
  · rw [if_pos h2, if_pos h2]
    simp only
    rw [Driver.failed_dev]
    unfold ioctlSetConfig
    cases configParams input.config with
    | none => exact Effect.refl s.dev _
    | some p => exact setConfigLoop_effect _ _ _ _ _ _ _
  rw [if_neg h2, if_neg h2]
  by_cases h3 : ioctlID = fiveBaudInit
  · rw [if_pos h3, if_pos h3]
    simp only
    rw [Ret.writing_drv, Driver.failed_dev]
    exact ioctlInit_effect _ _ _ _ _ _
  rw [if_neg h3, if_neg h3]
  by_cases h4 : ioctlID = fastInit
  · rw [if_pos h4, if_pos h4]
    simp only
    rw [Ret.writing_drv, Driver.failed_dev]
    exact ioctlInit_effect _ _ _ _ _ _
  rw [if_neg h4, if_neg h4]
  by_cases h5 : ioctlID = clearTxBuffer
  · rw [if_pos h5, if_pos (Or.inl h5)]
    exact Effect.refl s.dev _
  by_cases h6 : ioctlID = clearRxBuffer
  · rw [if_neg h5, if_pos h6, if_pos (Or.inr h6), Driver.done_dev]
    have hflush : NoNewLine s.dev (opDeviceFlushChannel s.dev i) :=
      noNewLine_setCh fun h => ⟨h, rfl⟩
    exact Effect.silent hflush rfl _
  rw [if_neg h5, if_neg h6, if_neg (not_or.mpr ⟨h5, h6⟩)]
  by_cases h7 : ioctlID = clearPeriodicMsgs
  · rw [if_pos h7, if_pos h7]
    have hcmd : Effect s.dev (simpleCmd (env.exchange 0) s.dev (opCmdClearPeriodic i.val) []
        opDefaultCmdMs).2.2 [⟨{ verb := 0x6c, channel := some i.val }, []⟩] :=
      simpleCmd_effect _ s.dev (prints_emit _) (by simp) _ _
    simp only
    generalize simpleCmd (env.exchange 0) s.dev (opCmdClearPeriodic i.val) [] opDefaultCmdMs = r
      at hcmd ⊢
    split
    · rw [Driver.fail_dev]
      exact hcmd
    · rw [Driver.done_dev]
      exact hcmd.setCh _ _ fun h => ⟨h, rfl⟩
  · rw [if_neg h7, if_neg h7]
    simp only
    rw [Driver.failed_dev]
    exact simpleCmd_effect _ s.dev (prints_emit _) (by simp) _ _

/-- The pin of `READ_PROG_VOLTAGE`, as its command prints it. -/
theorem printed_pin (pin : Option UInt64) :
    (pin.map printed).getD 12 = arg ((pin.map (·.toUInt32)).getD opPinProgVoltage) := by
  cases pin with
  | none => rfl
  | some p => rfl

theorem passThruIoctl_effect (env : CallEnv) (s : Driver) (channelID ioctlID : UInt64)
    (input : IoctlIn)
    (output : IoctlOut) :
    Effect s.dev (passThruIoctl env s channelID ioctlID input output).drv.dev
      (Call.asks printed env s.dev (.passThruIoctl channelID ioctlID input output)) := by
  show Effect _ _ (ioctlAsks printed channelID.toNat ioctlID input)
  unfold passThruIoctl ioctlAsks
  simp only
  split
  · rw [Driver.fail_dev]
    exact Effect.refl s.dev _
  by_cases h1 : ioctlID = readVbatt
  · rw [if_pos h1, if_pos h1, Ret.writing_drv, Driver.failed_dev]
    exact ioctlReadPin_effect env s.dev opPinVbatt output.value
  rw [if_neg h1, if_neg h1]
  by_cases h2 : ioctlID = readProgVoltage
  · rw [if_pos h2, if_pos h2, Ret.writing_drv, Driver.failed_dev]
    rw [printed_pin]
    exact ioctlReadPin_effect env s.dev _ output.value
  rw [if_neg h2, if_neg h2]
  cases hname : channelIoctlName ioctlID with
  | none =>
      simp only
      split <;> rw [Driver.fail_dev] <;> exact Effect.refl s.dev _
  | some name =>
      simp only
      split
      · rw [Driver.fail_dev]
        exact Effect.refl s.dev _
      · rename_i i hi
        rw [(channelOf_some hi).2]
        exact channelIoctl_effect env s.errClear i ioctlID input output

theorem passThruReadVersion_dev (s : Driver) (deviceID : UInt64) (p1 p2 p3 : Bool) :
    (passThruReadVersion s deviceID p1 p2 p3).drv.dev = s.dev := by
  unfold passThruReadVersion
  simp only
  repeat' split
  all_goals simp only [Driver.fail_dev, Driver.done_dev, Driver.errClear_dev]

theorem passThruGetLastError_dev (s : Driver) (p : Bool) :
    (passThruGetLastError s p).drv.dev = s.dev := by
  unfold passThruGetLastError
  split <;> rfl

/-! ## 5. Opening a session -/

theorem syncReset_effect (env : OpenEnv) (tries : Nat) : ∀ (d : OpDevice) (attempt : Nat),
    Effect d (syncReset env d attempt tries).2 (List.replicate tries ⟨{ verb := 0x7a }, []⟩) := by
  induction tries with
  | zero => exact fun d _ => Effect.refl d _
  | succ tries ih =>
      intro d attempt
      have hcmd : Effect d (opDeviceCmd (env.exchange attempt) d opCmdReset [] 1000).2.2
          [⟨{ verb := 0x7a }, []⟩] := cmdExchange_effect _ d (prints_emit _) (by simp) _ _ _
      unfold syncReset
      simp only
      split
      · exact hcmd.trans (ih _ _)
      · exact hcmd.mono (List.sublist_append_left [_] _)

theorem syncDevice_effect (env : OpenEnv) (d : OpDevice) :
    Effect d (syncDevice env d).2 [⟨{ verb := 0x7a }, []⟩, ⟨{ verb := 0x7a }, []⟩,
      ⟨{ verb := 0x7a }, []⟩,
      ⟨{ verb := 0x61 }, []⟩] := by
  have hreset := syncReset_effect env 3 d 0
  have hall : ∀ d' : OpDevice, Effect d' (opDeviceCmd (env.exchange 3) d' opCmdCloseAll [] 1000).2.2
      [⟨{ verb := 0x61 }, []⟩] := fun d' => cmdExchange_effect _ d' (prints_emit _) (by simp) _ _ _
  unfold syncDevice
  split
  · exact Effect.refl d _
  simp only
  split
  · split
    · split <;> exact hreset.trans (hall _)
    · split <;> exact hreset.trans (hall _)
  · split <;> exact hreset.mono (List.sublist_append_left _ _)

theorem opDeviceClose_opened (d : OpDevice) : (opDeviceClose d).opened = false := by
  unfold opDeviceClose
  split
  · rfl
  · rename_i h
    exact Bool.eq_false_iff.mpr h

/-- A session as `sync_device` finds it: no channel is open and no pin held. -/
def newSession (d : OpDevice) (clock : Timeval) : OpDevice :=
  { freshSession d clock with opened := true }

/-- **An opening goes on from a new session.** -/
theorem opDeviceOpen_effect (env : OpenEnv) {d : OpDevice} (h : d.opened = false) :
    Effect (newSession d env.clock) (opDeviceOpen env d).2 [⟨{ verb := 0x7a }, []⟩,
      ⟨{ verb := 0x7a }, []⟩, ⟨{ verb := 0x7a }, []⟩, ⟨{ verb := 0x61 }, []⟩] := by
  have hnever : NoNewLine (newSession d env.clock) (freshSession d env.clock) :=
    ⟨fun _ => rfl, fun h => h, rfl, rfl, fun _ h => ⟨h, rfl⟩⟩
  have hsync := syncDevice_effect env (newSession d env.clock)
  unfold opDeviceOpen
  rw [if_neg (by rw [h]; decide)]
  simp only
  split
  · exact Effect.silent hnever rfl _
  split
  · exact Effect.silent hnever rfl _
  split
  · exact hsync
  · obtain ⟨hc, hl⟩ := opDeviceClose_noNewLine (syncDevice env (newSession d env.clock)).2
    exact hsync.after hc hl

theorem openFailed_dev (s : Driver) (st : OpStatus) (lastDetail : Option String) :
    (openFailed s st lastDetail).drv.dev = s.dev := by
  unfold openFailed
  cases lastDetail with
  | some detail =>
      simp only
      split
      · rfl
      · rw [Driver.failText_dev]
      · rw [Driver.failText_dev]
      · rfl
  | none =>
      simp only
      split
      · split <;> rfl
      · rw [Driver.failText_dev]
      · rw [Driver.failText_dev]
      · split <;> rfl

theorem identify_effect (env : CallEnv) (s : Driver) :
    Effect s.dev (identify env s).drv.dev [⟨{ verb := 0x69 }, []⟩] := by
  have hcmd := simpleCmd_effect (env.exchange 0) s.dev (prints_emit { verb := 0x69 }) (by simp) []
    opDefaultCmdMs
  obtain ⟨hc, hl⟩ := opDeviceClose_noNewLine
    (simpleCmd (env.exchange 0) s.dev opCmdVersion [] opDefaultCmdMs).2.2
  have hclosed := hcmd.after hc hl
  unfold identify
  simp only
  split
  · rw [Driver.fail_dev]
    exact hclosed
  split
  · rw [Driver.failText_dev]
    exact hclosed
  split
  · rw [Driver.failText_dev]
    exact hclosed
  split
  · rw [Driver.failText_dev]
    exact hclosed.after ⟨fun h => h, fun h => h, rfl, rfl, fun _ h => ⟨h, rfl⟩⟩ rfl
  · rw [Driver.done_dev]
    exact hcmd.after ⟨fun h => h, fun h => h, rfl, rfl, fun _ h => ⟨h, rfl⟩⟩ rfl

/-- **What `PassThruOpen` does**: nothing, or it begins a session and goes on from there. -/
theorem passThruOpen_cases (env : CallEnv) (s : Driver) (pDeviceID : Bool) :
    (passThruOpen env s pDeviceID).drv.dev = s.dev ∨
      Effect (newSession (opDeviceClose s.dev) env.opening.clock)
        (passThruOpen env s pDeviceID).drv.dev
        (Call.asks printed env s.dev (.passThruOpen pDeviceID)) := by
  have hopen := opDeviceOpen_effect env.opening (opDeviceClose_opened s.dev)
  unfold passThruOpen
  simp only
  split
  · exact Or.inl (Driver.fail_dev _ _ _)
  split
  · exact Or.inl (Driver.fail_dev _ _ _)
  refine Or.inr ?_
  split
  · rw [openFailed_dev]
    exact hopen.mono (List.sublist_append_left _ [_])
  · exact hopen.trans (identify_effect env
      { s.errClear with dev := (opDeviceOpen env.opening (opDeviceClose s.errClear.dev)).2 })

/-! ## 6. Lines and pins -/

/-- What `PassThruConnect` checked before it opens a channel. -/
structure LineFree (d : OpDevice) (protocolID : UInt64) (fw : Fin 10) : Prop where
  channel : opProtocolChannel protocolID = some fw
  closed : (d.ch fw).isOpen = false
  partner : ∀ p, linePartner fw = some p → (d.ch p).isOpen = false
  ungrounded : groundedPin d protocolID = none

/-- The commands of a connect that got as far as its channel. -/
def connectAsks (fw : Fin 10) (flags baudRate : UInt64) : List Ask :=
  [⟨{ verb := 0x6f, channel := some fw.val, args := [printed flags, printed baudRate, 0] }, []⟩,
    ⟨{ verb := 0x63, channel := some fw.val }, []⟩]

theorem connectOn_cases (env : CallEnv) (s : Driver) (fw : Fin 10)
    (protocolID flags baudRate : UInt64) :
    Effect s.dev (connectOn env s fw protocolID flags baudRate).drv.dev
      (connectAsks fw flags baudRate) ∨
      ∃ d c, Effect s.dev d (connectAsks fw flags baudRate) ∧
        (c : OpChannel).protocol = protocolID.toUInt32 ∧
        (connectOn env s fw protocolID flags baudRate).drv.dev = d.setCh fw c := by
  have hcmd : Effect s.dev (simpleCmd (env.exchange 0) s.dev
      (opCmdOpen fw.val flags.toUInt32 baudRate.toUInt32) [] opDefaultCmdMs).2.2
      [⟨{ verb := 0x6f, channel := some fw.val, args := [printed flags, printed baudRate, 0] },
        []⟩] :=
    simpleCmd_effect _ s.dev (prints_emit _) (by simp) _ _
  have hall := hcmd.mono (List.sublist_append_left _
    [⟨{ verb := 0x63, channel := some fw.val }, []⟩])
  unfold connectOn
  simp only
  split
  · rw [Driver.fail_dev]
    exact Or.inl (Effect.refl s.dev _)
  split
  · rw [Driver.fail_dev]
    exact Or.inl hall
  generalize (simpleCmd (env.exchange 0) s.dev
    (opCmdOpen fw.val flags.toUInt32 baudRate.toUInt32) []
    opDefaultCmdMs).2.2 = d at hcmd hall
  unfold opDeviceOpenChannel
  cases hm : (d.ch fw).rq <|> env.mem with
  | none =>
      -- no buffer: the channel is cleared, and closed on the cable
      have hnone : openChannel (d.ch fw) env.mem protocolID.toUInt32 = {} := by
        unfold openChannel
        rw [hm]
      rw [hnone]
      have hclear : NoNewLine d (d.setCh fw {}) := noNewLine_setCh fun h => (nomatch h)
      have hclose := simpleCmd_effect (env.exchange 1) (d.setCh fw {})
        (prints_emit { verb := 0x63, channel := some fw.val }) (by simp) [] opDefaultCmdMs
      rw [if_pos (by simp), Driver.failText_dev]
      exact Or.inl (hcmd.trans (hclose.before hclear rfl))
  | some m =>
      have hsome : openChannel (d.ch fw) env.mem protocolID.toUInt32 =
          { rq := some m, isOpen := true, protocol := protocolID.toUInt32 } := by
        unfold openChannel
        rw [hm]
      rw [hsome, if_neg (by simp), Driver.done_dev]
      exact Or.inr ⟨d, _, hall, rfl, rfl⟩

/-- **What `PassThruConnect` does**: it takes no line, or the channel's line was free, and the
    channel is open for the protocol asked for. -/
theorem passThruConnect_cases (env : CallEnv) (s : Driver)
    (deviceID protocolID flags baudRate : UInt64) (pChannelID : Bool) :
    Effect s.dev (passThruConnect env s deviceID protocolID flags baudRate pChannelID).drv.dev
        (Call.asks printed env s.dev
          (.passThruConnect deviceID protocolID flags baudRate pChannelID)) ∨
      ∃ fw d c, LineFree s.dev protocolID fw ∧
        Effect s.dev d (Call.asks printed env s.dev
          (.passThruConnect deviceID protocolID flags baudRate pChannelID)) ∧
        (c : OpChannel).protocol = protocolID.toUInt32 ∧
        (passThruConnect env s deviceID protocolID flags baudRate pChannelID).drv.dev =
          d.setCh fw c := by
  have hfail : ∀ (code : Nat) (what : String) (asks : List Ask),
      Effect s.dev (s.errClear.fail code what : Ret UInt64).drv.dev asks := fun code what asks => by
    rw [Driver.fail_dev]
    exact Effect.refl s.dev asks
  unfold passThruConnect Call.asks
  simp only
  split
  · exact Or.inl (hfail _ _ _)
  split
  · exact Or.inl (hfail _ _ _)
  cases hfw : opProtocolChannel protocolID with
  | none => exact Or.inl (hfail _ _ _)
  | some fw =>
      simp only
      split
      · exact Or.inl (hfail _ _ _)
      rename_i hclosed
      split
      · rw [Driver.failText_dev]
        exact Or.inl (Effect.refl s.dev _)
      rename_i hpartner
      split
      · exact Or.inl (hfail _ _ _)
      split
      · rw [Driver.failText_dev]
        exact Or.inl (Effect.refl s.dev _)
      rename_i hground
      have hfree : LineFree s.dev protocolID fw := by
        refine ⟨hfw, Bool.eq_false_iff.mpr hclosed, ?_, hground⟩
        intro p hp
        rw [hp] at hpartner
        exact Bool.eq_false_iff.mpr (Option.filter_eq_none_iff.mp hpartner p rfl)
      rcases connectOn_cases env s.errClear fw protocolID flags baudRate with h | ⟨d, c, h, hc, e⟩
      · exact Or.inl h
      · exact Or.inr ⟨fw, d, c, hfree, h, hc, e⟩

/-- What `PassThruSetProgrammingVoltage` checked before it sends its `atv`. -/
structure PinFree (d : OpDevice) (pin voltage : UInt64) : Prop where
  elsewhere : voltageElsewhere d pin voltage = false
  holder : voltage = shortToGround → pinHolder d pin = none

/-- The `atv` of a pin and a voltage. -/
def askVoltage (pin voltage : UInt64) : Ask :=
  ⟨{ verb := 0x76, args := [(pin.toNat : Int), asSigned32 voltage] }, []⟩

/-- **What `PassThruSetProgrammingVoltage` does**: nothing, or it sends its `atv` to a pin that is
    free for it, and enters it in the pin sets exactly where the reply is taken for success. -/
theorem passThruSetProgrammingVoltage_cases (env : CallEnv) (s : Driver)
    (deviceID pin voltage : UInt64) :
    ∃ d, Kept s.dev d ∧
      (d.log = s.dev.log ∧ (passThruSetProgrammingVoltage env s deviceID pin voltage).drv.dev = d ∨
        ∃ t, PinFree s.dev pin voltage ∧ d.log = .txn t :: s.dev.log ∧
          ((askVoltage pin voltage).Sent t ∧ t.Settled) ∧
          (¬t.accepted ∧ (passThruSetProgrammingVoltage env s deviceID pin voltage).drv.dev = d ∨
            t.accepted ∧ (passThruSetProgrammingVoltage env s deviceID pin voltage).drv.dev =
              pinsAfter d pin voltage)) := by
  unfold passThruSetProgrammingVoltage
  simp only
  split
  · exact ⟨s.dev, Kept.refl _, Or.inl ⟨rfl, Driver.fail_dev _ _ _⟩⟩
  split
  · exact ⟨s.dev, Kept.refl _, Or.inl ⟨rfl, Driver.failText_dev _ _ _⟩⟩
  rename_i helse
  split
  · exact ⟨s.dev, Kept.refl _, Or.inl ⟨rfl, Driver.failText_dev _ _ _⟩⟩
  rename_i hholder
  split
  · exact ⟨s.dev, Kept.refl _, Or.inl ⟨rfl, Driver.fail_dev _ _ _⟩⟩
  have hfree : PinFree s.dev pin voltage := by
    refine ⟨Bool.eq_false_iff.mpr helse, ?_⟩
    intro hv
    rw [Option.filter_eq_none_iff] at hholder
    refine Option.eq_none_iff_forall_ne_some.mpr fun i hi => hholder i hi ?_
    rw [hv]
    decide
  have hp : Prints (cmdVoltage pin voltage) (askVoltage pin voltage).command := fun _ => rfl
  obtain ⟨hk, ⟨hlog, hne⟩ | ⟨t, hlog, hsent, hsettled, hacc⟩⟩ :=
    simpleCmd_cases (env.exchange 0) s.dev hp
    (by simp [askVoltage]) [] opDefaultCmdMs
  · refine ⟨_, hk, Or.inl ⟨hlog, ?_⟩⟩
    split
    · exact Driver.fail_dev _ _ _
    · rename_i hok
      exact absurd (Decidable.not_not.mp hok) hne
  · refine ⟨_, hk, Or.inr ⟨t, hfree, hlog, ⟨hsent, hsettled⟩, ?_⟩⟩
    split
    · rename_i hbad
      exact Or.inl ⟨fun h => hbad (hacc.mpr h), Driver.fail_dev _ _ _⟩
    · rename_i hok
      exact Or.inr ⟨hacc.mp (Decidable.not_not.mp hok), rfl⟩

/-! ## 7. Every call -/

/-- What a call may leave behind. -/
inductive Outcome (env : CallEnv) (s : Driver) : Call → OpDevice → Prop where
  /-- it writes nothing and takes nothing -/
  | refuses (c : Call) (d : OpDevice) : NoNewLine s.dev d → d.log = s.dev.log → Outcome env s c d
  /-- it takes no line and no pin, and does not ask for one -/
  | keeps (c : Call) (d : OpDevice) :
    (∀ id pin voltage, c ≠ .passThruSetProgrammingVoltage id pin voltage) →
      Effect s.dev d (c.asks printed env s.dev) → Outcome env s c d
  /-- a session begins -/
  | opens (p : Bool) (d : OpDevice) : Effect (newSession (opDeviceClose s.dev) env.opening.clock) d
      (Call.asks printed env s.dev (.passThruOpen p)) → Outcome env s (.passThruOpen p) d
  /-- a channel is open on a line that was free -/
  | connects (id protocolID flags baud : UInt64) (p : Bool) (fw : Fin 10) (d : OpDevice)
    (c : OpChannel) :
      LineFree s.dev protocolID fw →
      Effect s.dev d (Call.asks printed env s.dev (.passThruConnect id protocolID flags baud p)) →
      c.protocol = protocolID.toUInt32 →
      Outcome env s (.passThruConnect id protocolID flags baud p) (d.setCh fw c)
  /-- an `atv` to a free pin did not succeed -/
  | fails (id pin voltage : UInt64) (d : OpDevice) (t : Txn) : PinFree s.dev pin voltage →
    Kept s.dev d →
      d.log = .txn t :: s.dev.log → (askVoltage pin voltage).Sent t → t.Settled → ¬t.accepted →
      Outcome env s (.passThruSetProgrammingVoltage id pin voltage) d
  /-- an `atv` to a free pin succeeded -/
  | sets (id pin voltage : UInt64) (d : OpDevice) (t : Txn) : PinFree s.dev pin voltage →
    Kept s.dev d →
      d.log = .txn t :: s.dev.log → (askVoltage pin voltage).Sent t → t.Settled → t.accepted →
      Outcome env s (.passThruSetProgrammingVoltage id pin voltage) (pinsAfter d pin voltage)

/-- **Every call that returns leaves one of these behind.** -/
theorem call_outcome {fuel : Nat} {env : CallEnv} {s s' : Driver} {c : Call} {code : Nat}
    (hrun : c.run fuel env s = some (code, s')) : Outcome env s c s'.dev := by
  cases c with
  | passThruOpen p =>
      cases hrun
      rcases passThruOpen_cases env s p with e | heff
      · rw [e]
        exact .refuses _ _ (NoNewLine.refl _) rfl
      · exact .opens p _ heff
  | passThruClose id =>
      cases hrun
      exact .keeps _ _ (fun _ _ _ h => (nomatch h)) (passThruClose_effect env s id)
  | passThruConnect id protocolID flags baud p =>
      cases hrun
      rcases passThruConnect_cases env s id protocolID flags baud p with heff |
        ⟨fw, d, c, hf, heff, hc, e⟩
      · exact .keeps _ _ (fun _ _ _ h => (nomatch h)) heff
      · rw [e]
        exact .connects id protocolID flags baud p fw d c hf heff hc
  | passThruDisconnect ch =>
      cases hrun
      exact .keeps _ _ (fun _ _ _ h => (nomatch h)) (passThruDisconnect_effect env s ch)
  | passThruReadMsgs ch p n timeout =>
      obtain ⟨r, hr, e⟩ := Option.map_eq_some_iff.mp hrun
      cases e
      exact .keeps _ _ (fun _ _ _ h => (nomatch h)) (passThruReadMsgs_effect hr)
  | passThruWriteMsgs ch p n timeout =>
      cases hrun
      exact .keeps _ _ (fun _ _ _ h => (nomatch h)) (passThruWriteMsgs_effect env s ch p n timeout)
  | passThruStartPeriodicMsg ch m p interval =>
      cases hrun
      exact .keeps _ _ (fun _ _ _ h => (nomatch h))
        (passThruStartPeriodicMsg_effect env s ch m p interval)
  | passThruStopPeriodicMsg ch id =>
      cases hrun
      exact .keeps _ _ (fun _ _ _ h => (nomatch h)) (passThruStopPeriodicMsg_effect env s ch id)
  | passThruStartMsgFilter ch type mask pattern flow p =>
      cases hrun
      exact .keeps _ _ (fun _ _ _ h => (nomatch h))
        (passThruStartMsgFilter_effect env s ch type mask pattern flow p)
  | passThruStopMsgFilter ch id =>
      cases hrun
      exact .keeps _ _ (fun _ _ _ h => (nomatch h)) (passThruStopMsgFilter_effect env s ch id)
  | passThruSetProgrammingVoltage id pin voltage =>
      cases hrun
      obtain ⟨d, hk, ⟨hl, e⟩ | ⟨t, hf, hl, ⟨hsent, hst⟩, ⟨ha, e⟩ | ⟨ha, e⟩⟩⟩ :=
        passThruSetProgrammingVoltage_cases env s id pin voltage
      · rw [e]
        exact .refuses _ _ hk.noNewLine hl
      · rw [e]
        exact .fails id pin voltage d t hf hk hl hsent hst ha
      · rw [e]
        exact .sets id pin voltage d t hf hk hl hsent hst ha
  | passThruReadVersion id p1 p2 p3 =>
      cases hrun
      rw [passThruReadVersion_dev]
      exact .refuses _ _ (NoNewLine.refl _) rfl
  | passThruGetLastError p =>
      cases hrun
      rw [passThruGetLastError_dev]
      exact .refuses _ _ (NoNewLine.refl _) rfl
  | passThruIoctl ch id input output =>
      cases hrun
      exact .keeps _ _ (fun _ _ _ h => (nomatch h)) (passThruIoctl_effect env s ch id input output)

end Openport
