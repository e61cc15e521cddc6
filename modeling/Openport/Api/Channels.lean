/-
  File:      Openport/Api/Channels.lean
  Subject:   What holds of every channel record in every state.

  `Lasting` lists the things the driver ever does to a channel record. What each of
  them keeps holds of all ten records wherever calls and arrivals lead, and no
  proof about one property has to go through the entry points again.
-/
import Openport.Api.Ending
import Openport.Api.Exclusive

namespace Openport

/-! ## 1. What the driver does to a channel -/

/-- A property of channel records that everything the driver does to one keeps. -/
structure Lasting (P : OpChannel → Prop) : Prop where
  fresh : P {}
  received : ∀ i c r, P c → P (c.receive i r)
  cleared : ∀ c, P c → P c.cleared
  opened : ∀ c mem protocol, P c → c.isOpen = false → P (openChannel c mem protocol)
  closed : ∀ c, P c → P (closeChannel c)
  popped : ∀ c, P c → 0 < c.qcount → P (queuePop c).2
  counted : ∀ c, P c → P { c with dropped := 0 }
  flushed : ∀ c, P c → P (flushLocked c)
  started : ∀ c id, P c → c.isOpen = true → c.periodic.length < opPeriodicPerCh →
    P { c with periodic := c.periodic ++ [id] }
  stopped : ∀ c slot, P c → P { c with periodic := periodicDrop c.periodic slot }
  forgotten : ∀ c, P c → P { c with periodic := [] }

/-- It holds of every channel. -/
def AllCh (P : OpChannel → Prop) (d : OpDevice) : Prop := ∀ i, P (d.ch i)

theorem AllCh.same {P : OpChannel → Prop} {d d' : OpDevice} (h : AllCh P d) (e : d'.ch = d.ch) :
    AllCh P d' := fun i => by
  rw [e]
  exact h i

theorem AllCh.setCh {P : OpChannel → Prop} {d : OpDevice} (h : AllCh P d) {i : Fin 10}
    {c : OpChannel} (hc : P c) : AllCh P (d.setCh i c) := fun j => by
  by_cases e : j = i
  · rw [e, OpDevice.setCh_same]
    exact hc
  · rw [OpDevice.setCh_other d c e]
    exact h j

namespace Lasting

variable {P : OpChannel → Prop} (hP : Lasting P) {d : OpDevice} (h : AllCh P d)
include hP h

theorem arrivals (as : List Arrival) : AllCh P (arrivals d as) :=
  fun i => arrivals_channel (hP.received i) as (h i)

theorem exchanged (x : Exchange) (line payload : Bytes) (timeoutMs : UInt32) (wait : Bool) :
    AllCh P (cmdExchange x d line payload timeoutMs wait).2.2 := by
  obtain ⟨as, -, hsame⟩ := cmdExchange_heard x d line payload timeoutMs wait
  exact (hP.arrivals h as).same hsame.ch

theorem commanded {x : Exchange} {c : Nat × Option OpReply × OpDevice} (hc : Commanded x d c) :
    AllCh P c.2.2 := by
  obtain ⟨as, -, hsame⟩ := hc.heard
  exact (hP.arrivals h as).same hsame.ch

/-- An entry point of one command keeps what its commit keeps. -/
theorem ending {α : Type} {x : Exchange} {ret : Ret α} {blank : Option α → Prop}
    {fits : Option OpReply → Prop} {commit : Option OpReply → OpDevice → OpDevice → Prop}
    (he : Ending x d ret blank fits commit)
    (hcommit : ∀ reply d' d'', AllCh P d' → Kept d d' → commit reply d' d'' → AllCh P d'') :
    AllCh P ret.drv.dev := by
  cases he with
  | refused _ hdev _ => exact h.same (congrArg OpDevice.ch hdev)
  | failed c hc _ _ hdev _ => exact (hP.commanded h hc).same (congrArg OpDevice.ch hdev)
  | spoilt c hc _ _ _ hdev _ => exact (hP.commanded h hc).same (congrArg OpDevice.ch hdev)
  | done c hc _ _ _ hdone => exact hcommit _ _ _ (hP.commanded h hc) hc.kept hdone

end Lasting

/-! ## 2. Opening and closing -/

theorem opDeviceClose_ch (d : OpDevice) : (opDeviceClose d).ch = d.ch := by
  unfold opDeviceClose
  split <;> rfl

section Calls

variable {P : OpChannel → Prop} (hP : Lasting P)
include hP

theorem syncReset_lasting (env : OpenEnv) (tries : Nat) : ∀ (d : OpDevice) (attempt : Nat),
    AllCh P d → AllCh P (syncReset env d attempt tries).2 := by
  induction tries with
  | zero => exact fun d _ h => h
  | succ tries ih =>
      intro d attempt h
      have hcmd := hP.exchanged h (env.exchange attempt) opCmdReset [] 1000 true
      unfold syncReset
      simp only
      split
      · exact ih _ _ hcmd
      · exact hcmd

theorem syncDevice_lasting (env : OpenEnv) {d : OpDevice} (h : AllCh P d) :
    AllCh P (syncDevice env d).2 := by
  have hreset := syncReset_lasting hP env 3 d 0 h
  have hall := hP.exchanged hreset (env.exchange 3) opCmdCloseAll [] 1000 true
  unfold syncDevice
  split
  · exact h
  simp only
  split
  · split
    · split <;> exact hall
    · split <;> exact hall
  · split <;> exact hreset

theorem opDeviceOpen_lasting (env : OpenEnv) {d : OpDevice} (h : AllCh P d) :
    AllCh P (opDeviceOpen env d).2 := by
  have hfresh : AllCh P (freshSession d env.clock) := fun i => hP.cleared _ (h i)
  unfold opDeviceOpen
  split
  · exact h
  simp only
  split
  · exact hfresh
  split
  · exact hfresh
  have hsync := syncDevice_lasting hP env (d := { freshSession d env.clock with opened := true })
    hfresh
  split
  · exact hsync
  · exact hsync.same (opDeviceClose_ch _)

theorem identify_lasting (env : CallEnv) {s : Driver} (h : AllCh P s.dev) :
    AllCh P (identify env s).drv.dev := by
  have hcmd : AllCh P (simpleCmd (env.exchange 0) s.dev opCmdVersion [] opDefaultCmdMs).2.2 :=
    hP.commanded h ⟨_, _, _, rfl⟩
  have hclosed := hcmd.same (opDeviceClose_ch _)
  unfold identify
  simp only
  split
  · rw [Driver.fail_dev]
    exact hclosed
  split
  · exact hclosed
  split
  · exact hclosed
  split
  · exact hclosed
  · exact hcmd

theorem passThruOpen_lasting (env : CallEnv) {s : Driver} (h : AllCh P s.dev) (p : Bool) :
    AllCh P (passThruOpen env s p).drv.dev := by
  have hopen := opDeviceOpen_lasting hP env.opening (d := opDeviceClose s.errClear.dev)
    (h.same (opDeviceClose_ch _))
  unfold passThruOpen
  simp only
  split
  · rw [Driver.fail_dev]
    exact h
  split
  · rw [Driver.fail_dev]
    exact h
  split
  · rw [openFailed_dev]
    exact hopen
  · exact identify_lasting hP env hopen

theorem passThruClose_lasting (env : CallEnv) {s : Driver} (h : AllCh P s.dev) (id : UInt64) :
    AllCh P (passThruClose env s id).drv.dev := by
  unfold passThruClose
  simp only
  split
  · rw [Driver.fail_dev]
    exact h
  · rw [Driver.failed_dev]
    exact (hP.commanded (d := s.errClear.dev) h ⟨_, _, _, rfl⟩).same (opDeviceClose_ch _)

theorem connectOn_lasting (env : CallEnv) {s : Driver} (h : AllCh P s.dev) {fw : Fin 10}
    (hclosed : (s.dev.ch fw).isOpen = false) (protocolID flags baudRate : UInt64) :
    AllCh P (connectOn env s fw protocolID flags baudRate).drv.dev := by
  unfold connectOn
  simp only
  split
  · rw [Driver.fail_dev]
    exact h
  generalize hr : simpleCmd (env.exchange 0) s.dev
    (opCmdOpen fw.val flags.toUInt32 baudRate.toUInt32) [] opDefaultCmdMs = c
  have hc : Commanded (env.exchange 0) s.dev c := ⟨_, _, _, hr.symm⟩
  have hcmd := hP.commanded h hc
  split
  · rw [Driver.fail_dev]
    exact hcmd
  have hshut : (c.2.2.ch fw).isOpen = false := (hc.kept.isOpen fw).trans hclosed
  have hopen : AllCh P (opDeviceOpenChannel c.2.2 fw env.mem protocolID.toUInt32).2 :=
    hcmd.setCh (hP.opened _ env.mem protocolID.toUInt32 (hcmd fw) hshut)
  split
  · exact hP.commanded hopen ⟨_, _, _, rfl⟩
  · exact hopen

theorem passThruConnect_lasting (env : CallEnv) {s : Driver} (h : AllCh P s.dev)
    (deviceID protocolID flags baudRate : UInt64) (p : Bool) :
    AllCh P (passThruConnect env s deviceID protocolID flags baudRate p).drv.dev := by
  have hfail : ∀ (code : Nat) (what : String),
      AllCh P (s.errClear.fail code what : Ret UInt64).drv.dev := fun code what => by
    rw [Driver.fail_dev]
    exact h
  unfold passThruConnect
  simp only
  split
  · exact hfail _ _
  split
  · exact hfail _ _
  split
  · exact hfail _ _
  split
  · exact hfail _ _
  rename_i hclosed
  split
  · rw [Driver.failText_dev]
    exact h
  split
  · exact hfail _ _
  split
  · rw [Driver.failText_dev]
    exact h
  · exact connectOn_lasting hP env (s := s.errClear) h (Bool.eq_false_iff.mpr hclosed) _ _ _

theorem passThruDisconnect_lasting (env : CallEnv) {s : Driver} (h : AllCh P s.dev) (id : UInt64) :
    AllCh P (passThruDisconnect env s id).drv.dev := by
  unfold passThruDisconnect
  simp only
  split
  · rw [Driver.fail_dev]
    exact h
  split
  · rw [Driver.fail_dev]
    exact h
  · rename_i i hi
    have hcmd : AllCh P (simpleCmd (env.exchange 0) s.errClear.dev (opCmdClose i.val) []
        opDefaultCmdMs).2.2 := hP.commanded (d := s.errClear.dev) h ⟨_, _, _, rfl⟩
    rw [Driver.failed_dev]
    exact hcmd.setCh (hP.closed _ (hcmd i))

/-! ## 3. Messages -/

theorem opDevicePop_lasting {d : OpDevice} (h : AllCh P d) (i : Fin 10) :
    AllCh P (opDevicePop d i).2.2 := by
  unfold opDevicePop
  split
  · exact h
  split
  · rename_i hpos
    exact h.setCh (hP.popped _ (h i) hpos)
  · exact h

theorem readLoop_lasting {env : CallEnv} {i : Fin 10} {want timeout : UInt64} :
    ∀ {fuel turn : Nat} {got : List PassThruMsg} {d : OpDevice} {r : ReadLoop},
    AllCh P d → readLoop env i want timeout fuel turn got d = some r → AllCh P r.dev
  | 0, _, _, _, _, _, hr => (nomatch hr)
  | fuel + 1, turn, got, d, r, h, hr => by
      have hpop := opDevicePop_lasting hP (hP.arrivals h (env.wait turn)) i
      unfold readLoop at hr
      simp only at hr
      generalize opDevicePop (arrivals d (env.wait turn)) i = p at hr hpop
      split at hr
      · split at hr
        · obtain rfl := Option.some.inj hr
          exact hpop
        · exact readLoop_lasting hpop hr
      · split at hr
        · obtain rfl := Option.some.inj hr
          exact hpop
        · exact readLoop_lasting hpop hr
      · obtain rfl := Option.some.inj hr
        exact hpop

theorem readEnd_lasting (s : Driver) (i : Fin 10) (want timeout : UInt64) {r : ReadLoop}
    (h : AllCh P r.dev) : AllCh P (readEnd s i want timeout r).drv.dev := by
  have htake : AllCh P (opDeviceTakeDropped r.dev i).2 := by
    unfold opDeviceTakeDropped
    split
    · exact h
    · exact h.setCh (hP.counted _ (h i))
  unfold readEnd
  split
  · rw [Ret.writing_drv]
    split
    · rw [Driver.fail_dev]
      exact h
    · rw [Driver.fail_dev]
      exact h
  · simp only
    rw [Ret.writing_drv]
    split
    · rw [Driver.failText_dev]
      exact htake
    split
    · rw [Driver.failText_dev]
      exact htake
    split
    · rw [Driver.failText_dev]
      exact htake
    · rw [Driver.done_dev]
      exact htake

theorem passThruReadMsgs_lasting {fuel : Nat} {env : CallEnv} {s : Driver} (h : AllCh P s.dev)
    {channelID timeout : UInt64} {pMsg : Bool} {pNumMsgs : Option UInt64}
    {r : Ret (List PassThruMsg)}
    (hr : passThruReadMsgs fuel env s channelID pMsg pNumMsgs timeout = some r) :
    AllCh P r.drv.dev := by
  have hfail : ∀ (code : Nat) (what : String),
      AllCh P (s.errClear.fail code what : Ret (List PassThruMsg)).drv.dev := fun code what => by
    rw [Driver.fail_dev]
    exact h
  unfold passThruReadMsgs at hr
  simp only at hr
  split at hr
  · obtain rfl := Option.some.inj hr
    exact hfail _ _
  split at hr
  · obtain rfl := Option.some.inj hr
    exact hfail _ _
  split at hr
  · obtain rfl := Option.some.inj hr
    exact hfail _ _
  split at hr
  · obtain rfl := Option.some.inj hr
    exact hfail _ _
  split at hr
  · obtain rfl := Option.some.inj hr
    exact h
  · obtain ⟨l, hl, rfl⟩ := Option.map_eq_some_iff.mp hr
    exact readEnd_lasting hP _ _ _ _ (readLoop_lasting hP (d := s.errClear.dev) h hl)

theorem writeOne_lasting (x : Exchange) {s : Driver} (h : AllCh P s.dev) (i : Fin 10)
    (m : PassThruMsg) (timeoutMs : UInt32) : AllCh P (writeOne x s i m timeoutMs).drv.dev := by
  unfold writeOne
  simp only
  split
  · rw [msgOk_dev]
    exact h
  split
  · exact h
  split
  · exact hP.exchanged h x _ _ _ _
  · exact hP.commanded h ⟨_, _, _, rfl⟩

theorem writeLoop_lasting (env : CallEnv) (i : Fin 10) (msgs : Nat → PassThruMsg)
    (want timeout : UInt64) (fuel : Nat) : ∀ (sent : Nat) (s : Driver), AllCh P s.dev →
    AllCh P (writeLoop env i msgs want timeout fuel sent s).drv.dev := by
  induction fuel with
  | zero => exact fun _ _ h => h
  | succ fuel ih =>
      intro sent s h
      unfold writeLoop
      simp only
      split
      · rw [Ret.writing_drv, Driver.failText_dev]
        exact h
      have hone := writeOne_lasting hP (env.exchange sent) h i (msgs sent)
        (writeWait timeout (elapsedMs (env.clock 0) (env.clock (sent + 1))))
      generalize writeOne (env.exchange sent) s i (msgs sent)
        (writeWait timeout (elapsedMs (env.clock 0) (env.clock (sent + 1)))) = r at hone
      split
      · rw [Ret.writing_drv, Driver.fail_dev]
        exact hone
      · exact ih _ _ hone

theorem passThruWriteMsgs_lasting (env : CallEnv) {s : Driver} (h : AllCh P s.dev)
    (channelID : UInt64) (pMsg : Option (Nat → PassThruMsg)) (pNumMsgs : Option UInt64)
    (timeout : UInt64) :
    AllCh P (passThruWriteMsgs env s channelID pMsg pNumMsgs timeout).drv.dev := by
  have hfail : ∀ (code : Nat) (what : String),
      AllCh P (s.errClear.fail code what : Ret Nat).drv.dev := fun code what => by
    rw [Driver.fail_dev]
    exact h
  unfold passThruWriteMsgs
  simp only
  split
  · exact hfail _ _
  split
  · exact hfail _ _
  split
  · exact hfail _ _
  split
  · exact hfail _ _
  · exact writeLoop_lasting hP env _ _ _ timeout _ 0 s.errClear h

/-! ## 4. Periodic messages and ioctls -/

theorem passThruStartPeriodicMsg_lasting (env : CallEnv) {s : Driver} (h : AllCh P s.dev)
    (channelID : UInt64) (pMsg : Option PassThruMsg) (pMsgID : Bool) (timeInterval : UInt64) :
    AllCh P (passThruStartPeriodicMsg env s channelID pMsg pMsgID timeInterval).drv.dev := by
  refine hP.ending h
    (passThruStartPeriodicMsg_ending env s channelID pMsg pMsgID timeInterval) ?_
  rintro reply d' d'' hd - ⟨i, r, hi, hroom, -, rfl⟩
  exact hd.setCh (hP.started _ r.a (hd i) (channelOf_some hi).1 hroom)

theorem passThruStopPeriodicMsg_lasting (env : CallEnv) {s : Driver} (h : AllCh P s.dev)
    (channelID msgID : UInt64) :
    AllCh P (passThruStopPeriodicMsg env s channelID msgID).drv.dev := by
  unfold passThruStopPeriodicMsg
  simp only
  split
  · rw [Driver.fail_dev]
    exact h
  split
  · rw [Driver.fail_dev]
    exact h
  rename_i i hi
  split
  · rw [Driver.fail_dev]
    exact h
  rw [Driver.failed_dev]
  unfold periodicStop
  simp only
  generalize hr : simpleCmd (env.exchange 0) s.errClear.dev (opCmdPeriodicStop i.val _) []
    opDefaultCmdMs = c
  have hcmd := hP.commanded (d := s.errClear.dev) h ⟨_, _, _, hr.symm⟩
  split
  · exact hcmd.setCh (hP.stopped _ _ (hcmd i))
  · exact hcmd

theorem getConfigLoop_lasting (env : CallEnv) (ch : Fin 10) (list : Nat → UInt64 × UInt64)
    (fuel : Nat) : ∀ (i rc : Nat) (values : List (Nat × UInt64)) (d : OpDevice), AllCh P d →
    AllCh P (getConfigLoop env ch list fuel i rc values d).2.2 := by
  induction fuel with
  | zero => exact fun _ _ _ _ h => h
  | succ fuel ih => exact fun i _ _ d h => ih _ _ _ _ (hP.commanded h ⟨_, _, _, rfl⟩)

theorem setConfigLoop_lasting (env : CallEnv) (ch : Fin 10) (list : Nat → UInt64 × UInt64)
    (fuel : Nat) : ∀ (i rc : Nat) (d : OpDevice), AllCh P d →
    AllCh P (setConfigLoop env ch list fuel i rc d).2 := by
  induction fuel with
  | zero => exact fun _ _ _ h => h
  | succ fuel ih => exact fun i _ d h => ih _ _ _ (hP.commanded h ⟨_, _, _, rfl⟩)

/-- The ioctls of a channel that are no single command. -/
theorem channelIoctl_lasting (env : CallEnv) {s : Driver} (h : AllCh P s.dev) (i : Fin 10)
    {ioctlID : UInt64} (input : IoctlIn) (output : IoctlOut) {name : String}
    (hname : channelIoctlName ioctlID = some name) (hno : ioctlID ∉ commandIoctls) :
    AllCh P (channelIoctl env s i ioctlID input output).drv.dev := by
  unfold channelIoctl
  by_cases h1 : ioctlID = getConfig
  · rw [if_pos h1]
    simp only
    rw [Ret.writing_drv, Driver.failed_dev]
    unfold ioctlGetConfig
    split
    · exact h
    · exact getConfigLoop_lasting hP env i _ _ _ _ _ _ h
  rw [if_neg h1]
  by_cases h2 : ioctlID = setConfig
  · rw [if_pos h2]
    simp only
    rw [Driver.failed_dev]
    unfold ioctlSetConfig
    split
    · exact h
    · exact setConfigLoop_lasting hP env i _ _ _ _ _ h
  rw [if_neg h2]
  unfold commandIoctls channelCommandIoctls at hno
  simp only [List.mem_cons, List.not_mem_nil, or_false, not_or] at hno
  obtain ⟨-, -, h3, h4, h5, h6⟩ := hno
  rw [if_neg h3, if_neg h4]
  by_cases h7 : ioctlID = clearTxBuffer
  · rw [if_pos h7]
    exact h
  rw [if_neg h7]
  by_cases h8 : ioctlID = clearRxBuffer
  · rw [if_pos h8]
    exact h.setCh (hP.flushed _ (h i))
  · -- no other id has a name
    unfold channelIoctlName at hname
    rw [if_neg h1, if_neg h2, if_neg h3, if_neg h4, if_neg h7, if_neg h8, if_neg h5,
      if_neg h6] at hname
    cases hname

theorem passThruIoctl_lasting (env : CallEnv) {s : Driver} (h : AllCh P s.dev)
    (channelID ioctlID : UInt64) (input : IoctlIn) (output : IoctlOut) :
    AllCh P (passThruIoctl env s channelID ioctlID input output).drv.dev := by
  by_cases hid : ioctlID ∈ commandIoctls
  · refine hP.ending h (passThruIoctl_ending env s channelID input output hid) ?_
    intro reply d' d'' hd _ hc
    unfold ioctlCommit at hc
    split at hc
    · obtain ⟨i, -, rfl⟩ := hc
      exact hd.setCh (hP.forgotten _ (hd i))
    · exact hd.same (congrArg OpDevice.ch hc)
  have hfail : ∀ (code : Nat) (what : String),
      AllCh P (s.errClear.fail code what : Ret IoctlResult).drv.dev := fun code what => by
    rw [Driver.fail_dev]
    exact h
  have hmem := hid
  unfold commandIoctls at hmem
  simp only [List.mem_cons, not_or] at hmem
  unfold passThruIoctl
  simp only
  split
  · exact hfail _ _
  rw [if_neg hmem.1, if_neg hmem.2.1]
  cases hname : channelIoctlName ioctlID with
  | none =>
      simp only
      split <;> exact hfail _ _
  | some name =>
      simp only
      split
      · exact hfail _ _
      · exact channelIoctl_lasting hP env (s := s.errClear) h _ input output hname hid

/-! ## 5. Every call -/

/-- Every call keeps it. -/
theorem call_lasting {fuel : Nat} {env : CallEnv} {s s' : Driver} {c : Call} {code : Nat}
    (h : AllCh P s.dev) (hrun : c.run fuel env s = some (code, s')) : AllCh P s'.dev := by
  cases c with
  | passThruOpen p =>
      cases hrun
      exact passThruOpen_lasting hP env h p
  | passThruClose id =>
      cases hrun
      exact passThruClose_lasting hP env h id
  | passThruConnect id protocolID flags baud p =>
      cases hrun
      exact passThruConnect_lasting hP env h id protocolID flags baud p
  | passThruDisconnect ch =>
      cases hrun
      exact passThruDisconnect_lasting hP env h ch
  | passThruReadMsgs ch p n timeout =>
      obtain ⟨r, hr, e⟩ := Option.map_eq_some_iff.mp hrun
      cases e
      exact passThruReadMsgs_lasting hP h hr
  | passThruWriteMsgs ch p n timeout =>
      cases hrun
      exact passThruWriteMsgs_lasting hP env h ch p n timeout
  | passThruStartPeriodicMsg ch m p interval =>
      cases hrun
      exact passThruStartPeriodicMsg_lasting hP env h ch m p interval
  | passThruStopPeriodicMsg ch id =>
      cases hrun
      exact passThruStopPeriodicMsg_lasting hP env h ch id
  | passThruStartMsgFilter ch type mask pattern flow p =>
      cases hrun
      exact hP.ending h (passThruStartMsgFilter_ending env s ch type mask pattern flow p)
        fun _ _ _ hd _ hc => hd.same (congrArg OpDevice.ch hc)
  | passThruStopMsgFilter ch id =>
      cases hrun
      exact hP.ending h (passThruStopMsgFilter_ending env s ch id)
        fun _ _ _ hd _ hc => hd.same (congrArg OpDevice.ch hc)
  | passThruSetProgrammingVoltage id pin voltage =>
      cases hrun
      refine hP.ending h (passThruSetProgrammingVoltage_ending env s id pin voltage) ?_
      exact fun _ d' _ hd _ hc =>
        hd.same ((congrArg OpDevice.ch hc).trans (pinsAfter_ch d' pin voltage))
  | passThruReadVersion id p1 p2 p3 =>
      cases hrun
      rw [passThruReadVersion_dev]
      exact h
  | passThruGetLastError p =>
      cases hrun
      rw [passThruGetLastError_dev]
      exact h
  | passThruIoctl ch id input output =>
      cases hrun
      exact passThruIoctl_lasting hP env h ch id input output

/-- **It holds of every channel in every state** calls and arrivals lead to. -/
theorem Lasting.reachable {s : Driver} (hs : Reachable s) : AllCh P s.dev := by
  refine hs.invariant (P := fun s => AllCh P s.dev) (fun _ => hP.fresh) ?_
  intro s s' h hm
  cases hm with
  | call _ c fuel env code hrun => exact call_lasting hP h hrun
  | arrive a => exact fun i => arrive_channel (hP.received i) (h i) a

end Calls

end Openport
