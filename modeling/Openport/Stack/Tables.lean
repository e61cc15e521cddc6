/-
  File:      Openport/Stack/Tables.lean
  Subject:   The calls that leave the host's tables alone.

  A call that neither opens nor closes a channel and is about no periodic message
  leaves every channel open or closed as it was, with its periodic messages, and a
  cable that is gone stays gone.
-/
import Openport.Stack.Asked

namespace Openport

/-! ## 1. What is left alone -/

/-- The session, the channels and their periodic messages are as they were. -/
structure Tabled (d d' : OpDevice) : Prop where
  opened : d'.opened = d.opened
  isOpen : ∀ i, (d'.ch i).isOpen = (d.ch i).isOpen
  periodic : ∀ i, (d'.ch i).periodic = (d.ch i).periodic
  lost : d.lost = true → d'.lost = true

section Tabled

variable {d d' d'' : OpDevice}

theorem Tabled.same (h : d' = d) : Tabled d d' := by
  rw [h]
  exact ⟨rfl, fun _ => rfl, fun _ => rfl, fun hl => hl⟩

theorem Tabled.trans (h : Tabled d d') (h' : Tabled d' d'') : Tabled d d'' :=
  ⟨h'.opened.trans h.opened, fun i => (h'.isOpen i).trans (h.isOpen i),
    fun i => (h'.periodic i).trans (h.periodic i), fun hl => h'.lost (h.lost hl)⟩

theorem Kept.tabled (h : Kept d d') (hl : d.lost = true → d'.lost = true) : Tabled d d' :=
  ⟨h.opened, h.isOpen, h.periodic, hl⟩

theorem Commanded.tabled {x : Exchange} {c : Nat × Option OpReply × OpDevice}
    (h : Commanded x d c) : Tabled d c.2.2 := h.kept.tabled h.lost

theorem arrivals_tabled (d : OpDevice) (as : List Arrival) : Tabled d (arrivals d as) :=
  (arrivals_steady d as).kept.tabled fun hl => arrivals_lost hl as

/-- A channel is replaced by one that is open or closed as it was, with its periodic messages. -/
theorem tabled_setCh {i : Fin 10} {c : OpChannel} (ho : c.isOpen = (d.ch i).isOpen)
    (hp : c.periodic = (d.ch i).periodic) : Tabled d (d.setCh i c) := by
  refine ⟨rfl, fun j => ?_, fun j => ?_, fun hl => hl⟩
  · by_cases e : j = i
    · rw [e, OpDevice.setCh_same]
      exact ho
    · rw [OpDevice.setCh_other d c e]
  · by_cases e : j = i
    · rw [e, OpDevice.setCh_same]
      exact hp
    · rw [OpDevice.setCh_other d c e]

/-- An entry point of one command leaves alone what its commit does. -/
theorem Ending.tabled {α : Type} {x : Exchange} {ret : Ret α} {blank : Option α → Prop}
    {fits : Option OpReply → Prop} {commit : Option OpReply → OpDevice → OpDevice → Prop}
    (h : Ending x d ret blank fits commit)
    (hcommit : ∀ reply d' d'', commit reply d' d'' → Tabled d' d'') : Tabled d ret.drv.dev := by
  cases h with
  | refused _ hdev _ => exact .same hdev
  | failed c hc _ _ hdev _ => exact hc.tabled.trans (.same hdev)
  | spoilt c hc _ _ _ hdev _ => exact hc.tabled.trans (.same hdev)
  | done c hc _ _ _ hdone => exact hc.tabled.trans (hcommit _ _ _ hdone)

end Tabled

/-! ## 2. Messages -/

theorem opDevicePop_tabled (d : OpDevice) (i : Fin 10) : Tabled d (opDevicePop d i).2.2 := by
  unfold opDevicePop
  split
  · exact .same rfl
  split
  · obtain ⟨head, used, e⟩ := queuePop_ring (d.ch i)
    exact tabled_setCh (by rw [e]) (by rw [e])
  · exact .same rfl

theorem readLoop_tabled {env : CallEnv} {i : Fin 10} {want timeout : UInt64} :
    ∀ {fuel turn : Nat} {got : List PassThruMsg} {d : OpDevice} {r : ReadLoop},
      readLoop env i want timeout fuel turn got d = some r → Tabled d r.dev
  | 0, _, _, _, _, h => by cases h
  | fuel + 1, turn, got, d, r, h => by
      have hturn : Tabled d (opDevicePop (arrivals d (env.wait turn)) i).2.2 :=
        (arrivals_tabled d (env.wait turn)).trans (opDevicePop_tabled _ i)
      unfold readLoop at h
      simp only at h
      split at h
      · split at h
        · cases h
          exact hturn
        · exact hturn.trans (readLoop_tabled h)
      · split at h
        · cases h
          exact hturn
        · exact hturn.trans (readLoop_tabled h)
      · cases h
        exact hturn

theorem readEnd_tabled (s : Driver) (i : Fin 10) (want timeout : UInt64) (r : ReadLoop) :
    Tabled r.dev (readEnd s i want timeout r).drv.dev := by
  have htake : Tabled r.dev (opDeviceTakeDropped r.dev i).2 := by
    unfold opDeviceTakeDropped
    split
    · exact .same rfl
    · exact tabled_setCh rfl rfl
  unfold readEnd
  split
  · rw [Ret.writing_drv]
    split <;> rw [Driver.fail_dev] <;> exact .same rfl
  · simp only
    rw [Ret.writing_drv]
    repeat' split
    all_goals exact htake

theorem passThruReadMsgs_tabled {fuel : Nat} {env : CallEnv} {s : Driver}
    {channelID timeout : UInt64} {pMsg : Bool} {pNumMsgs : Option UInt64}
    {r : Ret (List PassThruMsg)}
    (h : passThruReadMsgs fuel env s channelID pMsg pNumMsgs timeout = some r) :
    Tabled s.dev r.drv.dev := by
  have hfail : ∀ (code : Nat) (what : String),
      Tabled s.dev (s.errClear.fail code what : Ret (List PassThruMsg)).drv.dev :=
    fun code what => .same (Driver.fail_dev _ _ _)
  unfold passThruReadMsgs at h
  simp only at h
  split at h
  · cases h
    exact hfail _ _
  split at h
  · cases h
    exact hfail _ _
  split at h
  · cases h
    exact hfail _ _
  split at h
  · cases h
    exact hfail _ _
  split at h
  · cases h
    exact .same rfl
  · obtain ⟨l, hl, rfl⟩ := Option.map_eq_some_iff.mp h
    have hread : Tabled s.dev l.dev := readLoop_tabled hl
    exact hread.trans (readEnd_tabled _ _ _ timeout l)

theorem cmdExchange_tabled (x : Exchange) (d : OpDevice) (line payload : Bytes) (timeoutMs : UInt32)
    (wait : Bool) : Tabled d (cmdExchange x d line payload timeoutMs wait).2.2 :=
  (cmdExchange_cases x d line payload timeoutMs wait).1.tabled fun hl =>
    (cmdExchange_lost hl x line payload timeoutMs wait).2

theorem writeOne_tabled (x : Exchange) (s : Driver) (i : Fin 10) (m : PassThruMsg)
    (timeoutMs : UInt32) : Tabled s.dev (writeOne x s i m timeoutMs).drv.dev := by
  unfold writeOne
  simp only
  split
  · rw [msgOk_dev]
    exact .same rfl
  split
  · exact .same rfl
  split
  · exact cmdExchange_tabled _ _ _ _ _ _
  · exact Commanded.tabled ⟨_, _, _, rfl⟩

theorem writeLoop_tabled (env : CallEnv) (i : Fin 10) (msgs : Nat → PassThruMsg)
    (want timeout : UInt64) (fuel : Nat) : ∀ (sent : Nat) (s : Driver),
    Tabled s.dev (writeLoop env i msgs want timeout fuel sent s).drv.dev := by
  induction fuel with
  | zero => exact fun _ _ => .same rfl
  | succ fuel ih =>
      intro sent s
      have hone := writeOne_tabled (env.exchange sent) s i (msgs sent)
        (writeWait timeout (elapsedMs (env.clock 0) (env.clock (sent + 1))))
      unfold writeLoop
      simp only
      split
      · rw [Ret.writing_drv, Driver.failText_dev]
        exact .same rfl
      split
      · rw [Ret.writing_drv, Driver.fail_dev]
        exact hone
      · exact hone.trans (ih _ _)

theorem passThruWriteMsgs_tabled (env : CallEnv) (s : Driver) (channelID : UInt64)
    (pMsg : Option (Nat → PassThruMsg)) (pNumMsgs : Option UInt64) (timeout : UInt64) :
    Tabled s.dev (passThruWriteMsgs env s channelID pMsg pNumMsgs timeout).drv.dev := by
  have hfail : ∀ (code : Nat) (what : String),
      Tabled s.dev (s.errClear.fail code what : Ret Nat).drv.dev :=
    fun code what => .same (Driver.fail_dev _ _ _)
  unfold passThruWriteMsgs
  simp only
  split
  · exact hfail _ _
  split
  · exact hfail _ _
  split
  · exact hfail _ _
  split
  · exact hfail _ _
  · exact writeLoop_tabled env _ _ _ timeout _ 0 s.errClear

/-! ## 3. Ioctls -/

theorem getConfigLoop_tabled (env : CallEnv) (ch : Fin 10) (list : Nat → UInt64 × UInt64)
    (fuel : Nat) : ∀ (i rc : Nat) (values : List (Nat × UInt64)) (d : OpDevice),
    Tabled d (getConfigLoop env ch list fuel i rc values d).2.2 := by
  induction fuel with
  | zero => exact fun _ _ _ _ => .same rfl
  | succ fuel ih =>
      intro i rc values d
      unfold getConfigLoop
      exact Tabled.trans (Commanded.tabled ⟨_, _, _, rfl⟩) (ih _ _ _ _)

theorem setConfigLoop_tabled (env : CallEnv) (ch : Fin 10) (list : Nat → UInt64 × UInt64)
    (fuel : Nat) : ∀ (i rc : Nat) (d : OpDevice),
    Tabled d (setConfigLoop env ch list fuel i rc d).2 := by
  induction fuel with
  | zero => exact fun _ _ _ => .same rfl
  | succ fuel ih =>
      intro i rc d
      unfold setConfigLoop
      exact Tabled.trans (Commanded.tabled ⟨_, _, _, rfl⟩) (ih _ _ _)

/-- The ioctls of a channel that are no single command. -/
theorem channelIoctl_tabled (env : CallEnv) (s : Driver) (i : Fin 10) {ioctlID : UInt64}
    (input : IoctlIn) (output : IoctlOut) {name : String}
    (hname : channelIoctlName ioctlID = some name) (hno : ioctlID ∉ commandIoctls) :
    Tabled s.dev (channelIoctl env s i ioctlID input output).drv.dev := by
  unfold channelIoctl
  by_cases h1 : ioctlID = getConfig
  · rw [if_pos h1]
    simp only
    rw [Ret.writing_drv, Driver.failed_dev]
    unfold ioctlGetConfig
    split
    · exact .same rfl
    · exact getConfigLoop_tabled env i _ _ _ _ _ _
  rw [if_neg h1]
  by_cases h2 : ioctlID = setConfig
  · rw [if_pos h2]
    simp only
    rw [Driver.failed_dev]
    unfold ioctlSetConfig
    split
    · exact .same rfl
    · exact setConfigLoop_tabled env i _ _ _ _ _
  rw [if_neg h2]
  unfold commandIoctls channelCommandIoctls at hno
  simp only [List.mem_cons, List.not_mem_nil, or_false, not_or] at hno
  obtain ⟨-, -, h3, h4, h5, h6⟩ := hno
  rw [if_neg h3, if_neg h4]
  by_cases h7 : ioctlID = clearTxBuffer
  · rw [if_pos h7]
    exact .same rfl
  rw [if_neg h7]
  by_cases h8 : ioctlID = clearRxBuffer
  · rw [if_pos h8]
    exact tabled_setCh rfl rfl
  · -- no other id has a name
    unfold channelIoctlName at hname
    rw [if_neg h1, if_neg h2, if_neg h3, if_neg h4, if_neg h7, if_neg h8, if_neg h5,
      if_neg h6] at hname
    cases hname

theorem passThruIoctl_tabled (env : CallEnv) (s : Driver) (channelID : UInt64) {ioctlID : UInt64}
    (hclear : ioctlID ≠ clearPeriodicMsgs) (input : IoctlIn) (output : IoctlOut) :
    Tabled s.dev (passThruIoctl env s channelID ioctlID input output).drv.dev := by
  by_cases hid : ioctlID ∈ commandIoctls
  · refine (passThruIoctl_ending env s channelID input output hid).tabled ?_
    intro reply d' d'' hc
    unfold ioctlCommit at hc
    rw [if_neg hclear] at hc
    exact .same hc
  have hmem := hid
  unfold commandIoctls at hmem
  simp only [List.mem_cons, not_or] at hmem
  unfold passThruIoctl
  simp only
  split
  · exact .same (Driver.fail_dev _ _ _)
  rw [if_neg hmem.1, if_neg hmem.2.1]
  cases hname : channelIoctlName ioctlID with
  | none =>
      simp only
      split <;> exact .same (Driver.fail_dev _ _ _)
  | some name =>
      simp only
      split
      · exact .same (Driver.fail_dev _ _ _)
      · exact channelIoctl_tabled env s.errClear _ input output hname hid

/-! ## 4. The calls -/

/-- The calls that begin or end a session. -/
def Call.sessions : Call → Prop
  | .passThruOpen _ => True
  | .passThruClose _ => True
  | _ => False

/-- **Every other call leaves the tables alone.** -/
theorem call_tabled {fuel : Nat} {env : CallEnv} {s s' : Driver} {c : Call} {code : Nat}
    (hrun : c.run fuel env s = some (code, s')) (hs : ¬c.sessions) (hc : ¬c.schedules) :
    Tabled s.dev s'.dev := by
  cases c with
  | passThruOpen p => exact absurd trivial hs
  | passThruClose id => exact absurd trivial hs
  | passThruConnect id protocolID flags baud p => exact absurd trivial hc
  | passThruDisconnect ch => exact absurd trivial hc
  | passThruReadMsgs ch p n timeout =>
      obtain ⟨r, hr, e⟩ := Option.map_eq_some_iff.mp hrun
      cases e
      exact passThruReadMsgs_tabled hr
  | passThruWriteMsgs ch p n timeout =>
      cases hrun
      exact passThruWriteMsgs_tabled env s ch p n timeout
  | passThruStartPeriodicMsg ch m p interval => exact absurd trivial hc
  | passThruStopPeriodicMsg ch id => exact absurd trivial hc
  | passThruStartMsgFilter ch type mask pattern flow p =>
      cases hrun
      exact (passThruStartMsgFilter_ending env s ch type mask pattern flow p).tabled
        fun _ _ _ hc => .same hc
  | passThruStopMsgFilter ch id =>
      cases hrun
      exact (passThruStopMsgFilter_ending env s ch id).tabled fun _ _ _ hc => .same hc
  | passThruSetProgrammingVoltage id pin voltage =>
      cases hrun
      refine (passThruSetProgrammingVoltage_ending env s id pin voltage).tabled ?_
      intro reply d' d'' hc
      rw [show d'' = pinsAfter d' pin voltage from hc]
      refine ⟨(pinsAfter_session d' pin voltage).1, fun i => ?_, fun i => ?_, ?_⟩
      · rw [pinsAfter_ch]
      · rw [pinsAfter_ch]
      · unfold pinsAfter
        simp only
        repeat' split
        all_goals exact fun hl => hl
  | passThruReadVersion id p1 p2 p3 =>
      cases hrun
      exact .same (passThruReadVersion_dev _ _ _ _ _)
  | passThruGetLastError p =>
      cases hrun
      exact .same (passThruGetLastError_dev _ _)
  | passThruIoctl ch id input output =>
      cases hrun
      exact passThruIoctl_tabled env s ch hc input output

end Openport
