/-
  File:      Openport/Api/Atomic.lean
  Subject:   A failed call changes nothing.

  What arrives while a call waits for its answer is not the call's doing: the
  channels of a failed call are those its arrivals alone lead to. The one call that
  touches a channel on its way to a failure is a Connect without memory, and the
  channel it clears was blank before.
-/
import Openport.Api.Channels

namespace Openport

/-! ## 1. Channels without a queue -/

/-- A channel record without a queue buffer is blank. -/
def Blank (c : OpChannel) : Prop := c.rq = none → c = {}

theorem receive_blank {i : Fin 10} {c : OpChannel} {r : OpReply} (h : Blank c) :
    Blank (c.receive i r) := by
  intro hnone
  have hq : c.rq = none := by
    have hb := receive_buffer i c r
    rw [hnone] at hb
    cases hc : c.rq with
    | none => rfl
    | some m =>
        rw [hc] at hb
        cases hb
  rw [h hq]
  exact receive_shut rfl r

/-- **No record without a queue buffer has anything in it**, in any state. -/
theorem blank_lasting : Lasting Blank where
  fresh := fun _ => rfl
  received := fun _ _ _ h => receive_blank h
  cleared := fun c h hnone => by
    rw [h hnone]
    rfl
  opened := fun c mem protocol _ _ hnone => by
    unfold openChannel at hnone ⊢
    cases hm : c.rq <|> mem with
    | none => rfl
    | some m =>
        rw [hm] at hnone
        cases hnone
  closed := fun c h hnone => by
    rw [h hnone]
    rfl
  popped := fun c h hpos hnone => by
    have hq : c.rq = none := hnone
    rw [h hq] at hpos
    cases hpos
  counted := fun c h hnone => by rw [h hnone]
  flushed := fun c h hnone => by
    rw [h hnone]
    rfl
  started := fun c id h ho _ hnone => by
    rw [h hnone] at ho
    cases ho
  stopped := fun c slot h hnone => by
    rw [h hnone]
    rfl
  forgotten := fun c h hnone => by rw [h hnone]

/-! ## 2. What a failed call may leave -/

/-- What may arrive during a call: during each of its transactions in turn, by how far they get. -/
def CallEnv.Hears (env : CallEnv) (as : List Arrival) : Prop :=
  ∃ parts : List (List Arrival), as = parts.flatten ∧
    ∀ k part, parts[k]? = some part → part ∈ (env.exchange k).heard

/-- Nothing has changed because of the call: the channels, queues and all, are those that what
    arrived leads to, and no channel was opened, closed or given another protocol, no periodic
    message entered or dropped, no pin moved. -/
structure Unchanged (env : CallEnv) (d d' : OpDevice) : Prop where
  heard : ∃ as, env.Hears as ∧ d'.ch = (arrivals d as).ch
  isOpen : ∀ i, (d'.ch i).isOpen = (d.ch i).isOpen
  protocol : ∀ i, (d'.ch i).protocol = (d.ch i).protocol
  periodic : ∀ i, (d'.ch i).periodic = (d.ch i).periodic
  pinsGrounded : d'.pinsGrounded = d.pinsGrounded
  pinsPowered : d'.pinsPowered = d.pinsPowered

section Unchanged

variable {env : CallEnv} {d d' : OpDevice}

theorem Kept.unchanged (h : Kept d d') {as : List Arrival} (hears : env.Hears as)
    (hch : d'.ch = (arrivals d as).ch) : Unchanged env d d' :=
  ⟨⟨as, hears, hch⟩, h.isOpen, h.protocol, h.periodic, h.pinsGrounded, h.pinsPowered⟩

theorem hears_nil : env.Hears [] := ⟨[], rfl, fun k part h => by
  rw [List.getElem?_nil] at h
  cases h⟩

theorem unchanged_refl : Unchanged env d d := (Kept.refl d).unchanged hears_nil rfl

/-- One transaction of the call. -/
theorem hears_one {as : List Arrival} (h : as ∈ (env.exchange 0).heard) : env.Hears as := by
  refine ⟨[as], (List.append_nil as).symm, ?_⟩
  intro k part hk
  cases k with
  | zero =>
      obtain rfl := Option.some.inj hk
      exact h
  | succ k => cases hk

theorem Commanded.unchanged {c : Nat × Option OpReply × OpDevice}
    (h : Commanded (env.exchange 0) d c) : Unchanged env d c.2.2 := by
  obtain ⟨as, has, hsame⟩ := h.heard
  exact h.kept.unchanged (hears_one has) hsame.ch

/-- An entry point of one command that fails changes nothing. -/
theorem Ending.unchanged {α : Type} {ret : Ret α} {blank : Option α → Prop}
    {fits : Option OpReply → Prop} {commit : Option OpReply → OpDevice → OpDevice → Prop}
    (h : Ending (env.exchange 0) d ret blank fits commit) (hcode : ret.code ≠ statusNoerror) :
    Unchanged env d ret.drv.dev ∧ blank ret.out := by
  cases h with
  | refused _ hdev hblank =>
      rw [hdev]
      exact ⟨unchanged_refl, hblank⟩
  | failed c hc _ _ hdev hblank =>
      rw [hdev]
      exact ⟨hc.unchanged, hblank⟩
  | spoilt c hc _ _ _ hdev hblank =>
      rw [hdev]
      exact ⟨hc.unchanged, hblank⟩
  | done c _ _ _ hok _ => exact absurd hok hcode

end Unchanged

/-! ## 3. Commands in a row -/

/-- The device after commands in a row, the first with the call's transaction `i`. -/
inductive Commands (env : CallEnv) : Nat → OpDevice → OpDevice → Prop where
  | nil (i : Nat) (d : OpDevice) : Commands env i d d
  | cons {i : Nat} {d d' : OpDevice} {c : Nat × Option OpReply × OpDevice} :
      Commanded (env.exchange i) d c → Commands env (i + 1) c.2.2 d' → Commands env i d d'

theorem Commands.kept {env : CallEnv} {i : Nat} {d d' : OpDevice} (h : Commands env i d d') :
    Kept d d' := by
  induction h with
  | nil i d => exact Kept.refl d
  | cons hc _ ih => exact hc.kept.trans ih

/-- On the channels they are what arrives while they run, one after the other. -/
theorem Commands.heard {env : CallEnv} {i : Nat} {d d' : OpDevice} (h : Commands env i d d') :
    ∃ parts : List (List Arrival),
      (∀ k part, parts[k]? = some part → part ∈ (env.exchange (i + k)).heard) ∧
      SameStream (arrivals d parts.flatten) d' := by
  induction h with
  | nil i d =>
      refine ⟨[], ?_, .refl d⟩
      intro k part hk
      rw [List.getElem?_nil] at hk
      cases hk
  | @cons i d d' c hc _ ih =>
      obtain ⟨as, has, hsame⟩ := hc.heard
      obtain ⟨parts, hparts, hrest⟩ := ih
      refine ⟨as :: parts, ?_, ?_⟩
      · intro k part hk
        cases k with
        | zero =>
            obtain rfl := Option.some.inj hk
            exact has
        | succ k =>
            have h := hparts k part hk
            rwa [Nat.add_right_comm] at h
      · rw [List.flatten_cons, arrivals_append]
        exact (arrivals_same parts.flatten hsame).trans hrest

/-- Commands in a row change nothing. -/
theorem Commands.unchanged {env : CallEnv} {d d' : OpDevice} (h : Commands env 0 d d') :
    Unchanged env d d' := by
  obtain ⟨parts, hparts, hsame⟩ := h.heard
  refine h.kept.unchanged ⟨parts, rfl, ?_⟩ hsame.ch
  intro k part hk
  have hmem := hparts k part hk
  rwa [Nat.zero_add] at hmem

/-! ## 4. Connect -/

theorem connectOn_unchanged (env : CallEnv) {s : Driver} {fw : Fin 10}
    (hblank : Blank (s.dev.ch fw)) (hclosed : (s.dev.ch fw).isOpen = false)
    (protocolID flags baudRate : UInt64)
    (hcode : (connectOn env s fw protocolID flags baudRate).code ≠ statusNoerror) :
    Unchanged env s.dev (connectOn env s fw protocolID flags baudRate).drv.dev ∧
      (connectOn env s fw protocolID flags baudRate).out = none := by
  unfold connectOn at hcode ⊢
  simp only at hcode ⊢
  by_cases hline : opCmdOpen fw.val flags.toUInt32 baudRate.toUInt32 = []
  · rw [if_pos hline, Driver.fail_dev]
    exact ⟨unchanged_refl, rfl⟩
  rw [if_neg hline] at hcode ⊢
  generalize hr : simpleCmd (env.exchange 0) s.dev
    (opCmdOpen fw.val flags.toUInt32 baudRate.toUInt32) [] opDefaultCmdMs = c at hcode ⊢
  have hc : Commanded (env.exchange 0) s.dev c := ⟨_, _, _, hr.symm⟩
  by_cases hbad : c.1 ≠ statusNoerror
  · rw [if_pos hbad, Driver.fail_dev]
    exact ⟨hc.unchanged, rfl⟩
  rw [if_neg hbad] at hcode ⊢
  by_cases hmem : (opDeviceOpenChannel c.2.2 fw env.mem protocolID.toUInt32).1 ≠ .ok
  · -- no memory: the record that is cleared was blank
    rw [if_pos hmem]
    have hsame : c.2.2.ch fw = s.dev.ch fw := hc.shut hclosed
    have hnone : ((s.dev.ch fw).rq <|> env.mem) = none := by
      cases hm : (s.dev.ch fw).rq <|> env.mem with
      | none => rfl
      | some m =>
          refine absurd ?_ hmem
          unfold opDeviceOpenChannel openChannel
          rw [hsame, hm]
          rfl
    have hempty : s.dev.ch fw = {} := by
      refine hblank ?_
      cases hq : (s.dev.ch fw).rq with
      | none => rfl
      | some m =>
          rw [hq] at hnone
          cases hnone
    have hopen : (opDeviceOpenChannel c.2.2 fw env.mem protocolID.toUInt32).2 = c.2.2 := by
      have hch : openChannel (c.2.2.ch fw) env.mem protocolID.toUInt32 = c.2.2.ch fw := by
        unfold openChannel
        rw [hsame, hnone, hempty]
      unfold opDeviceOpenChannel
      rw [hch]
      unfold OpDevice.setCh
      have hfun : (fun j => if j = fw then c.2.2.ch fw else c.2.2.ch j) = c.2.2.ch := by
        funext j
        by_cases e : j = fw
        · rw [if_pos e, e]
        · rw [if_neg e]
      simp only
      rw [hfun]
    rw [hopen]
    exact ⟨(Commands.cons hc (.cons ⟨_, _, _, rfl⟩ (.nil 2 _))).unchanged, rfl⟩
  · rw [if_neg hmem] at hcode
    exact absurd rfl hcode

theorem passThruConnect_unchanged (env : CallEnv) {s : Driver} (hblank : AllCh Blank s.dev)
    (deviceID protocolID flags baudRate : UInt64) (pChannelID : Bool)
    (hcode : (passThruConnect env s deviceID protocolID flags baudRate pChannelID).code ≠
      statusNoerror) :
    Unchanged env s.dev
        (passThruConnect env s deviceID protocolID flags baudRate pChannelID).drv.dev ∧
      (passThruConnect env s deviceID protocolID flags baudRate pChannelID).out = none := by
  have hfail : ∀ (code : Nat) (what : String),
      Unchanged env s.dev (s.errClear.fail code what : Ret UInt64).drv.dev ∧
        (s.errClear.fail code what : Ret UInt64).out = none := fun code what => by
    rw [Driver.fail_dev]
    exact ⟨unchanged_refl, rfl⟩
  have htext : ∀ (code : Nat) (text : String),
      Unchanged env s.dev (s.errClear.failText code text : Ret UInt64).drv.dev ∧
        (s.errClear.failText code text : Ret UInt64).out = none := fun code text => by
    rw [Driver.failText_dev]
    exact ⟨unchanged_refl, rfl⟩
  unfold passThruConnect at hcode ⊢
  simp only at hcode ⊢
  by_cases h1 : (!deviceOpen s.errClear.dev deviceID) = true
  · rw [if_pos h1]
    exact hfail _ _
  rw [if_neg h1] at hcode ⊢
  by_cases h2 : (!pChannelID) = true
  · rw [if_pos h2]
    exact hfail _ _
  rw [if_neg h2] at hcode ⊢
  cases hfw : opProtocolChannel protocolID with
  | none => exact hfail _ _
  | some fw =>
      rw [hfw] at hcode
      simp only at hcode ⊢
      by_cases h3 : (s.errClear.dev.ch fw).isOpen = true
      · rw [if_pos h3]
        exact hfail _ _
      rw [if_neg h3] at hcode ⊢
      cases h4 : (linePartner fw).filter fun p => (s.errClear.dev.ch p).isOpen with
      | some partner => exact htext _ _
      | none =>
          rw [h4] at hcode
          simp only at hcode ⊢
          by_cases h5 : baudRate = 0
          · rw [if_pos h5]
            exact hfail _ _
          rw [if_neg h5] at hcode ⊢
          cases h6 : groundedPin s.errClear.dev protocolID with
          | some pin => exact htext _ _
          | none =>
              rw [h6] at hcode
              exact connectOn_unchanged env (s := s.errClear) (hblank fw)
                (Bool.eq_false_iff.mpr h3) protocolID flags baudRate hcode

/-! ## 5. `GET_CONFIG` and `SET_CONFIG` -/

section Config

variable (env : CallEnv) (ch : Fin 10) (list : Nat → UInt64 × UInt64) (d : OpDevice)

/-- The device before parameter `k` is read. -/
def configDevice : Nat → OpDevice
  | 0 => d
  | k + 1 => (simpleCmd (env.exchange k) (configDevice k)
      (opCmdGetConfig ch.val (list k).1.toUInt32) [] opDefaultCmdMs).2.2

/-- The value the device gives for parameter `k`, if its read succeeds. -/
def configRead (k : Nat) : Option UInt64 :=
  let r := simpleCmd (env.exchange k) (configDevice env ch list d k)
    (opCmdGetConfig ch.val (list k).1.toUInt32) [] opDefaultCmdMs
  if r.1 = statusNoerror then (r.2.1.filter fun reply => reply.kind == .config).map (·.b.toUInt64)
  else none

theorem getConfigLoop_commands (fuel : Nat) : ∀ (i rc : Nat) (values : List (Nat × UInt64))
    (d : OpDevice), Commands env i d (getConfigLoop env ch list fuel i rc values d).2.2 := by
  induction fuel with
  | zero => exact fun i _ _ d => .nil i d
  | succ fuel ih => exact fun i _ _ d => .cons ⟨_, _, _, rfl⟩ (ih _ _ _ _)

theorem setConfigLoop_commands (fuel : Nat) : ∀ (i rc : Nat) (d : OpDevice),
    Commands env i d (setConfigLoop env ch list fuel i rc d).2 := by
  induction fuel with
  | zero => exact fun i _ d => .nil i d
  | succ fuel ih => exact fun i _ d => .cons ⟨_, _, _, rfl⟩ (ih _ _ _)

/-- **A parameter is written only where its own read succeeded**, with the value read. -/
theorem getConfigLoop_values (fuel : Nat) : ∀ (i rc : Nat) (values : List (Nat × UInt64))
    {p : Nat × UInt64},
    p ∈ (getConfigLoop env ch list fuel i rc values (configDevice env ch list d i)).2.1 →
    p ∈ values ∨ p.1 < i + fuel ∧ configRead env ch list d p.1 = some p.2 := by
  induction fuel with
  | zero => exact fun _ _ _ _ h => Or.inl h
  | succ fuel ih =>
      intro i rc values p hp
      unfold getConfigLoop at hp
      simp only at hp
      rcases ih (i + 1) _ _ hp with h | ⟨hlt, hread⟩
      · generalize hr : simpleCmd (env.exchange i) (configDevice env ch list d i)
          (opCmdGetConfig ch.val (list i).1.toUInt32) [] opDefaultCmdMs = r at h
        by_cases hgood : r.1 = statusNoerror ∧ r.2.1.map (·.kind) = some .config
        · obtain ⟨hok, hkind⟩ := hgood
          have hrc : (if r.1 = statusNoerror ∧ r.2.1.map (·.kind) ≠ some .config then errFailed
              else r.1) = statusNoerror := by
            rw [if_neg fun hx => hx.2 hkind]
            exact hok
          rw [if_pos hrc] at h
          rcases List.mem_append.mp h with h | h
          · exact Or.inl h
          · refine Or.inr ⟨?_, ?_⟩
            · rw [List.mem_singleton.mp h]
              omega
            · rw [List.mem_singleton.mp h]
              obtain ⟨reply, hrep, hk⟩ := Option.map_eq_some_iff.mp hkind
              have hfits : (some reply).filter (fun reply => reply.kind == .config) = some reply :=
                Option.filter_eq_some_iff.mpr ⟨rfl, beq_iff_eq.mpr hk⟩
              unfold configRead
              simp only
              rw [hr, if_pos hok, hrep, hfits]
              rfl
        · refine Or.inl ?_
          have hne : (if r.1 = statusNoerror ∧ r.2.1.map (·.kind) ≠ some .config then errFailed
              else r.1) ≠ statusNoerror := by
            by_cases hok : r.1 = statusNoerror
            · rw [if_pos ⟨hok, fun e => hgood ⟨hok, e⟩⟩]
              exact errFailed_ne
            · rw [if_neg fun hx => hok hx.1]
              exact hok
          rwa [if_neg hne] at h
      · exact Or.inr ⟨by omega, hread⟩

end Config

/-- `GET_CONFIG` wrote nothing but values of parameters that were read. -/
def OnlyRead (env : CallEnv) (d : OpDevice) (channelID : UInt64) (input : IoctlIn)
    (out : Option IoctlResult) : Prop :=
  { out.getD {} with config := [] } = ({} : IoctlResult) ∧
    ∀ p ∈ (out.getD {}).config, ∃ i n list, channelOf d channelID = some i ∧
      configParams input.config = some (n, list) ∧ p.1 < n ∧
      configRead env i list d p.1 = some p.2

theorem Untouched.onlyRead {env : CallEnv} {d : OpDevice} {channelID : UInt64} {input : IoctlIn}
    {out : Option IoctlResult} (h : Untouched out) : OnlyRead env d channelID input out := by
  unfold OnlyRead
  rw [show out.getD {} = {} from h]
  exact ⟨rfl, fun p hp => absurd hp List.not_mem_nil⟩

/-- What a failed ioctl may have written. -/
def IoctlClean (env : CallEnv) (d : OpDevice) (channelID ioctlID : UInt64) (input : IoctlIn)
    (out : Option IoctlResult) : Prop :=
  if ioctlID = getConfig then OnlyRead env d channelID input out else Untouched out

theorem getConfig_unchanged (env : CallEnv) {s : Driver} {channelID : UInt64} {i : Fin 10}
    (hi : channelOf s.dev channelID = some i) (input : IoctlIn) (output : IoctlOut) :
    Unchanged env s.dev (channelIoctl env s i getConfig input output).drv.dev ∧
      OnlyRead env s.dev channelID input (channelIoctl env s i getConfig input output).out := by
  have e : channelIoctl env s i getConfig input output =
      ({ s with dev := (ioctlGetConfig env s.dev i input.config).2.2 }.failed
        (ioctlGetConfig env s.dev i input.config).1 "PassThruIoctl(GET_CONFIG)").writing
        { config := (ioctlGetConfig env s.dev i input.config).2.1 } := rfl
  rw [e, Ret.writing_drv, Driver.failed_dev]
  unfold ioctlGetConfig
  cases hp : configParams input.config with
  | none => exact ⟨unchanged_refl, rfl, fun p hp => absurd hp List.not_mem_nil⟩
  | some params =>
      obtain ⟨n, list⟩ := params
      refine ⟨(getConfigLoop_commands env i list n 0 statusNoerror [] s.dev).unchanged, rfl, ?_⟩
      intro p hmem
      rcases getConfigLoop_values env i list s.dev n 0 statusNoerror [] hmem with h | ⟨hlt, hread⟩
      · exact absurd h List.not_mem_nil
      · rw [Nat.zero_add] at hlt
        exact ⟨i, n, list, hi, hp, hlt, hread⟩

theorem setConfig_unchanged (env : CallEnv) (s : Driver) (i : Fin 10) (input : IoctlIn)
    (output : IoctlOut) :
    Unchanged env s.dev (channelIoctl env s i setConfig input output).drv.dev ∧
      Untouched (channelIoctl env s i setConfig input output).out := by
  have e : channelIoctl env s i setConfig input output =
      { s with dev := (ioctlSetConfig env s.dev i input.config).2 }.failed
        (ioctlSetConfig env s.dev i input.config).1 "PassThruIoctl(SET_CONFIG)" := rfl
  rw [e, Driver.failed_dev]
  refine ⟨?_, rfl⟩
  unfold ioctlSetConfig
  cases configParams input.config with
  | none => exact unchanged_refl
  | some params =>
      exact (setConfigLoop_commands env i params.2 params.1 0 statusNoerror s.dev).unchanged

/-- **A failed ioctl changes nothing.** -/
theorem passThruIoctl_unchanged (env : CallEnv) (s : Driver) (channelID ioctlID : UInt64)
    (input : IoctlIn) (output : IoctlOut)
    (hcode : (passThruIoctl env s channelID ioctlID input output).code ≠ statusNoerror) :
    Unchanged env s.dev (passThruIoctl env s channelID ioctlID input output).drv.dev ∧
      IoctlClean env s.dev channelID ioctlID input
        (passThruIoctl env s channelID ioctlID input output).out := by
  have hclean : ∀ {out : Option IoctlResult}, Untouched out →
      IoctlClean env s.dev channelID ioctlID input out := by
    intro out h
    unfold IoctlClean
    split
    · exact h.onlyRead
    · exact h
  by_cases hid : ioctlID ∈ commandIoctls
  · obtain ⟨h1, h2⟩ := (passThruIoctl_ending env s channelID input output hid).unchanged hcode
    exact ⟨h1, hclean h2⟩
  have hfail : ∀ (code : Nat) (what : String),
      Unchanged env s.dev (s.errClear.fail code what : Ret IoctlResult).drv.dev ∧
        IoctlClean env s.dev channelID ioctlID input
          (s.errClear.fail code what : Ret IoctlResult).out := fun code what => by
    rw [Driver.fail_dev]
    exact ⟨unchanged_refl, hclean rfl⟩
  have hmem := hid
  unfold commandIoctls at hmem
  simp only [List.mem_cons, not_or] at hmem
  unfold passThruIoctl at hcode ⊢
  simp only at hcode ⊢
  by_cases ho : (!s.errClear.dev.opened) = true
  · rw [if_pos ho]
    exact hfail _ _
  rw [if_neg ho, if_neg hmem.1, if_neg hmem.2.1] at hcode ⊢
  cases hname : channelIoctlName ioctlID with
  | none =>
      simp only
      split <;> exact hfail _ _
  | some name =>
      rw [hname] at hcode
      simp only at hcode ⊢
      cases hi : channelOf s.errClear.dev channelID with
      | none => exact hfail _ _
      | some i =>
          rw [hi] at hcode
          simp only at hcode ⊢
          by_cases h1 : ioctlID = getConfig
          · subst h1
            exact getConfig_unchanged env (s := s.errClear) hi input output
          by_cases h2 : ioctlID = setConfig
          · subst h2
            exact setConfig_unchanged env s.errClear i input output
          unfold channelCommandIoctls at hmem
          simp only [List.mem_cons, List.not_mem_nil, or_false, not_or] at hmem
          obtain ⟨-, -, h3, h4, h5, h6⟩ := hmem
          -- what is left is `CLEAR_TX_BUFFER` and `CLEAR_RX_BUFFER`, which do not fail
          unfold channelIoctl at hcode
          rw [if_neg h1, if_neg h2, if_neg h3, if_neg h4] at hcode
          by_cases h7 : ioctlID = clearTxBuffer
          · rw [if_pos h7] at hcode
            exact absurd rfl hcode
          rw [if_neg h7] at hcode
          by_cases h8 : ioctlID = clearRxBuffer
          · rw [if_pos h8] at hcode
            exact absurd rfl hcode
          · unfold channelIoctlName at hname
            rw [if_neg h1, if_neg h2, if_neg h3, if_neg h4, if_neg h7, if_neg h8, if_neg h5,
              if_neg h6] at hname
            cases hname

/-! ## 6. Every call that takes hold of something -/

/-- What a call gave back: `clean` says that the caller's output is untouched, but for the values
    `GET_CONFIG` read. -/
structure Attempt where
  code : Nat
  drv : Driver
  clean : Prop

/-- The attempt of one call. -/
def Ret.attempt {α : Type} (r : Ret α) (clean : Option α → Prop) : Attempt :=
  ⟨r.code, r.drv, clean r.out⟩

/-- The calls that change something only if they succeed. -/
def Call.attempt (env : CallEnv) (s : Driver) : Call → Option Attempt
  | .passThruConnect id protocol flags baud p =>
    some ((Openport.passThruConnect env s id protocol flags baud p).attempt NoOutput)
  | .passThruStartPeriodicMsg ch m p interval =>
    some ((Openport.passThruStartPeriodicMsg env s ch m p interval).attempt NoOutput)
  | .passThruStartMsgFilter ch type mask pattern flow p =>
    some ((Openport.passThruStartMsgFilter env s ch type mask pattern flow p).attempt NoOutput)
  | .passThruStopMsgFilter ch id =>
    some ((Openport.passThruStopMsgFilter env s ch id).attempt NoOutput)
  | .passThruSetProgrammingVoltage id pin voltage =>
    some ((Openport.passThruSetProgrammingVoltage env s id pin voltage).attempt NoOutput)
  | .passThruReadVersion id p1 p2 p3 =>
    some ((Openport.passThruReadVersion s id p1 p2 p3).attempt NoOutput)
  | .passThruIoctl ch id input output =>
    some ((Openport.passThruIoctl env s ch id input output).attempt
      (IoctlClean env s.dev ch id input))
  | _ => none

theorem passThruReadVersion_unwritten {s : Driver} {deviceID : UInt64} {p1 p2 p3 : Bool}
    (hcode : (passThruReadVersion s deviceID p1 p2 p3).code ≠ statusNoerror) :
    (passThruReadVersion s deviceID p1 p2 p3).out = none := by
  unfold passThruReadVersion at hcode ⊢
  simp only at hcode ⊢
  by_cases h1 : (!deviceOpen s.errClear.dev deviceID) = true
  · rw [if_pos h1]
    rfl
  rw [if_neg h1] at hcode ⊢
  by_cases h2 : s.errClear.dev.lost = true
  · rw [if_pos h2]
    rfl
  rw [if_neg h2] at hcode ⊢
  by_cases h3 : (!p1 || !p2 || !p3) = true
  · rw [if_pos h3]
    rfl
  · rw [if_neg h3] at hcode
    exact absurd rfl hcode

/-- **A failed call changes nothing**: in every state calls and arrivals lead to, whatever becomes
    of its commands. -/
theorem failed_changes_nothing {s : Driver} (hs : Reachable s) {c : Call} {env : CallEnv}
    {a : Attempt} (h : c.attempt env s = some a) (hcode : a.code ≠ statusNoerror) :
    Unchanged env s.dev a.drv.dev ∧ a.clean := by
  cases c with
  | passThruConnect id protocol flags baud p =>
      obtain rfl := Option.some.inj h
      exact passThruConnect_unchanged env (blank_lasting.reachable hs) id protocol
        flags baud p hcode
  | passThruStartPeriodicMsg ch m p interval =>
      obtain rfl := Option.some.inj h
      exact (passThruStartPeriodicMsg_ending env s ch m p interval).unchanged hcode
  | passThruStartMsgFilter ch type mask pattern flow p =>
      obtain rfl := Option.some.inj h
      exact (passThruStartMsgFilter_ending env s ch type mask pattern flow p).unchanged hcode
  | passThruStopMsgFilter ch id =>
      obtain rfl := Option.some.inj h
      exact (passThruStopMsgFilter_ending env s ch id).unchanged hcode
  | passThruSetProgrammingVoltage id pin voltage =>
      obtain rfl := Option.some.inj h
      exact (passThruSetProgrammingVoltage_ending env s id pin voltage).unchanged hcode
  | passThruReadVersion id p1 p2 p3 =>
      obtain rfl := Option.some.inj h
      refine ⟨?_, passThruReadVersion_unwritten hcode⟩
      show Unchanged env s.dev (passThruReadVersion s id p1 p2 p3).drv.dev
      rw [passThruReadVersion_dev]
      exact unchanged_refl
  | passThruIoctl ch id input output =>
      obtain rfl := Option.some.inj h
      exact passThruIoctl_unchanged env s ch id input output hcode
  | passThruOpen p => cases h
  | passThruClose id => cases h
  | passThruDisconnect ch => cases h
  | passThruReadMsgs ch p n timeout => cases h
  | passThruWriteMsgs ch p n timeout => cases h
  | passThruStopPeriodicMsg ch id => cases h
  | passThruGetLastError p => cases h

/-- 12 V on pin 12 while nothing answers. -/
theorem failed_changes_nothing_voltage :
    Unchanged {} kLineDriver.dev (passThruSetProgrammingVoltage {} kLineDriver 1 12 12000).drv.dev ∧
      (passThruSetProgrammingVoltage {} kLineDriver 1 12 12000).out = none := by
  have h : (Call.passThruSetProgrammingVoltage 1 12 12000).attempt {} kLineDriver =
      some ((passThruSetProgrammingVoltage {} kLineDriver 1 12 12000).attempt NoOutput) := rfl
  have hcode : (passThruSetProgrammingVoltage {} kLineDriver 1 12 12000).code ≠ statusNoerror := by
    decide
  exact failed_changes_nothing kLineDriver_reachable h hcode

end Openport
