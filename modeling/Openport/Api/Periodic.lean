/-
  File:      Openport/Api/Periodic.lean
  Subject:   The host's periodic table is the cable's.

  `InStep` holds between the driver and the cable after every call that starts,
  stops or clears periodic messages or opens or closes their channel, whatever the
  cable answers, as long as it does what it answers. What a call does is said once
  for each entry point, in its own words; the invariant is then a matter of what
  either side does to one channel.
-/
import Openport.Api.Schedule

namespace Openport

open Lib.Decimal Lib.Mirror

/-! ## 1. The two sides -/

/-- The host's table of an open channel is the cable's set of running messages. On a closed
    channel nothing runs, unless the cable went away before it could be told. -/
structure InStep (d : OpDevice) (p : Schedule) : Prop where
  opened : d.opened = true
  mirrors : ∀ i, (d.ch i).isOpen = true → Mirrors (d.ch i).periodic (p.live i.val)
  quiet : ∀ i, (d.ch i).isOpen = false → d.lost = true ∨ p.live i.val = ∅

section InStep

variable {d d' : OpDevice} {p q : Schedule}

/-- What keeps the tables keeps both sides in step. -/
theorem InStep.kept (h : InStep d p) (hk : Kept d d') (hl : d.lost = true → d'.lost = true) :
    InStep d' p := by
  refine ⟨hk.opened.trans h.opened, ?_, ?_⟩
  · intro i ho
    rw [hk.periodic]
    exact h.mirrors i ((hk.isOpen i).symm.trans ho)
  · intro i hc
    exact (h.quiet i ((hk.isOpen i).symm.trans hc)).imp_left hl

/-- Both sides do something to one channel. -/
theorem InStep.setCh (h : InStep d p) {i : Fin 10} {c : OpChannel}
    (hother : ∀ j, j ≠ i.val → q.live j = p.live j)
    (hopen : c.isOpen = true → Mirrors c.periodic (q.live i.val))
    (hshut : c.isOpen = false → d.lost = true ∨ q.live i.val = ∅) : InStep (d.setCh i c) q := by
  refine ⟨h.opened, ?_, ?_⟩
  · intro j ho
    by_cases e : j = i
    · rw [e, OpDevice.setCh_same] at ho ⊢
      exact hopen ho
    · rw [OpDevice.setCh_other d c e] at ho ⊢
      rw [hother j.val fun hv => e (Fin.ext hv)]
      exact h.mirrors j ho
  · intro j hc
    by_cases e : j = i
    · rw [e, OpDevice.setCh_same] at hc
      rw [e]
      exact hshut hc
    · rw [OpDevice.setCh_other d c e] at hc
      rw [hother j.val fun hv => e (Fin.ext hv)]
      exact h.quiet j hc

theorem Commanded.lost {x : Exchange} {c : Nat × Option OpReply × OpDevice} (h : Commanded x d c)
    (hl : d.lost = true) : c.2.2.lost = true := by
  obtain ⟨line, payload, timeoutMs, rfl⟩ := h
  rw [simpleCmd_dev]
  exact (cmdExchange_lost hl x line payload timeoutMs true).2

theorem InStep.commanded (h : InStep d p) {x : Exchange} {c : Nat × Option OpReply × OpDevice}
    (hc : Commanded x d c) : InStep c.2.2 p := h.kept hc.kept hc.lost

theorem InStep.gave (h : InStep d p) {a : Ask} {c : Nat × Option OpReply × OpDevice}
    (hc : Gave d a c) : InStep c.2.2 p := h.kept hc.kept fun hl => (hc.lost hl).2

/-- A transaction of a call was asked for. -/
theorem Effect.sent {asks : List Ask} (h : Effect d d' asks) {t : Txn}
    (hlog : d'.log = .txn t :: d.log) : ∃ a ∈ asks, a.Sent t := by
  obtain ⟨given, hsub, txns, htx, hall⟩ := h.spoke
  obtain rfl : txns = [t] := txns_unique htx hlog
  obtain ⟨a, ha, hs⟩ := sent_asked hall t (List.mem_singleton_self t)
  exact ⟨a, hsub.subset ha, hs⟩

end InStep

/-! ## 2. Starting and clearing -/

/-- A code that is not `ERR_FAILED` is the device's own. -/
theorem deviceError_eq {code v : UInt32} (hv : errFailed ≠ v.toNat)
    (h : deviceError code = v.toNat) :
    code = v := by
  unfold deviceError at h
  split at h
  · exact UInt32.toNat_inj.mp h
  · exact absurd h hv

theorem arg_inj {v w : UInt32} (h : arg v = arg w) : v = w :=
  UInt32.toNat_inj.mp (Int.ofNat.inj h)

section Entry

variable {env : CallEnv} {s : Driver} {p p' : Schedule}

/-- A start keeps both sides in step. -/
theorem startPeriodic_inStep (h : InStep s.dev p) {channelID : UInt64} {pMsg : Option PassThruMsg}
    {pMsgID : Bool} {timeInterval : UInt64}
    (hb : p.Between s.dev
      (passThruStartPeriodicMsg env s channelID pMsg pMsgID timeInterval).drv.dev p') :
    InStep (passThruStartPeriodicMsg env s channelID pMsg pMsgID timeInterval).drv.dev p' := by
  have heff := passThruStartPeriodicMsg_effect env s channelID pMsg pMsgID timeInterval
  have hend := passThruStartPeriodicMsg_ending env s channelID pMsg pMsgID timeInterval
  generalize passThruStartPeriodicMsg env s channelID pMsg pMsgID timeInterval = ret at *
  -- what the cable made of the command, where there was one
  have hserved : ∀ t, ret.drv.dev.log = .txn t :: s.dev.log →
      ∃ r, t.reply = some r ∧ p.Start channelID.toNat r p' := by
    intro t hlog
    obtain ⟨a, ha, hs⟩ := heff.sent hlog
    obtain ⟨r, hr, ho⟩ := hs.obeys (hb.one hlog)
    cases pMsg with
    | none => cases ha
    | some m =>
        obtain rfl := List.mem_singleton.mp ha
        exact ⟨r, hr, ho⟩
  cases hend with
  | refused _ hdev _ =>
      rw [hb.silent (congrArg OpDevice.log hdev), hdev]
      exact h
  | failed c hc hbad _ hdev _ =>
      rcases hc.txn with ⟨hlog, -⟩ | ⟨t, hlog, -, hacc⟩
      · rw [hb.silent (hdev ▸ hlog), hdev]
        exact h.commanded hc
      · obtain ⟨r, hr, ho⟩ := hserved t (hdev ▸ hlog)
        rw [hdev]
        cases ho with
        | started _ hk _ =>
            refine absurd (hacc.mpr ⟨r, hr, replyToStatus_ok ?_⟩) hbad
            intro e
            rw [hk] at e
            cases e
        | declined _ _ => exact h.commanded hc
  | spoilt c hc hgood hno _ hdev _ =>
      rcases hc.txn with ⟨-, hbad⟩ | ⟨t, hlog, hreply, -⟩
      · exact absurd hgood hbad
      · obtain ⟨r, hr, ho⟩ := hserved t (hdev ▸ hlog)
        rw [hdev]
        cases ho with
        | started _ hk _ => exact absurd ⟨r, hreply.trans hr, hk⟩ hno
        | declined _ _ => exact h.commanded hc
  | done c hc hgood hfits _ hcommit =>
      obtain ⟨i, reply, hi, -, hsome, hdev⟩ := hcommit
      obtain ⟨hopen, hid⟩ := channelOf_some hi
      rcases hc.txn with ⟨-, hbad⟩ | ⟨t, hlog, hreply, hacc⟩
      · exact absurd hgood hbad
      · obtain ⟨r, hr, ho⟩ := hserved t (by rw [hdev]; exact hlog)
        obtain rfl : reply = r := Option.some.inj (hsome.symm.trans (hreply.trans hr))
        rw [hdev]
        rw [hid] at ho
        have hnow := h.commanded hc
        cases ho with
        | started hroom _ hfresh =>
            refine hnow.setCh (fun j e => Schedule.start_other e) (?_) ?_
            · intro _
              rw [Schedule.start_live]
              exact (hnow.mirrors i hopen).append fun hm => hfresh (p.within i.val hm)
            · intro hshut
              exact absurd (hopen.symm.trans hshut) (by decide)
        | declined hk _ =>
            obtain ⟨r', hr', hk'⟩ := hfits
            obtain rfl : reply = r' := Option.some.inj (hsome.symm.trans hr')
            rw [hk] at hk'
            cases hk'

/-- `CLEAR_PERIODIC_MSGS` keeps both sides in step. -/
theorem clearPeriodic_inStep (h : InStep s.dev p) {channelID : UInt64} {input : IoctlIn}
    {output : IoctlOut}
    (hb : p.Between s.dev (passThruIoctl env s channelID clearPeriodicMsgs input output).drv.dev
      p') :
    InStep (passThruIoctl env s channelID clearPeriodicMsgs input output).drv.dev p' := by
  have heff := passThruIoctl_effect env s channelID clearPeriodicMsgs input output
  have hend := passThruIoctl_ending env s channelID input output
    (show clearPeriodicMsgs ∈ commandIoctls by decide)
  generalize passThruIoctl env s channelID clearPeriodicMsgs input output = ret at *
  have hserved : ∀ t, ret.drv.dev.log = .txn t :: s.dev.log →
      ∃ r, t.reply = some r ∧ p.Clear channelID.toNat r p' := by
    intro t hlog
    obtain ⟨a, ha, hs⟩ := heff.sent hlog
    obtain ⟨r, hr, ho⟩ := hs.obeys (hb.one hlog)
    obtain rfl : a = ⟨{ verb := 0x6c, channel := some channelID.toNat }, []⟩ :=
      List.mem_singleton.mp ha
    exact ⟨r, hr, ho⟩
  cases hend with
  | refused _ hdev _ =>
      rw [hb.silent (congrArg OpDevice.log hdev), hdev]
      exact h
  | failed c hc hbad _ hdev _ =>
      rcases hc.txn with ⟨hlog, -⟩ | ⟨t, hlog, -, hacc⟩
      · rw [hb.silent (hdev ▸ hlog), hdev]
        exact h.commanded hc
      · obtain ⟨r, hr, ho⟩ := hserved t (hdev ▸ hlog)
        rw [hdev]
        cases ho with
        | cleared hk => exact absurd (hacc.mpr ⟨r, hr, replyToStatus_ok hk⟩) hbad
        | refused _ _ => exact h.commanded hc
  | spoilt c hc _ hno _ _ _ => exact absurd trivial hno
  | done c hc hgood _ _ hcommit =>
      obtain ⟨i, hi, hdev⟩ := hcommit
      obtain ⟨hopen, hid⟩ := channelOf_some hi
      rcases hc.txn with ⟨-, hbad⟩ | ⟨t, hlog, -, hacc⟩
      · exact absurd hgood hbad
      · obtain ⟨r, hr, ho⟩ := hserved t (by rw [hdev]; exact hlog)
        rw [hdev]
        rw [hid] at ho
        cases ho with
        | cleared hk =>
            refine (h.commanded hc).setCh (fun j e => Schedule.clear_other e) (?_)
              ?_
            · intro _
              rw [Schedule.clear_live]
              exact mirrors_nil
            · intro hshut
              exact absurd (hopen.symm.trans hshut) (by decide)
        | refused hk h0 =>
            obtain ⟨r', hr', hst⟩ := hacc.mp hgood
            obtain rfl : r = r' := Option.some.inj (hr.symm.trans hr')
            rw [replyToStatus_error hk] at hst
            exact absurd (deviceError_zero.mp hst) h0

/-! ## 3. Stopping -/

theorem short_stop (i : Fin 10) (id : UInt32) :
    (Command.line { verb := 0x6e, channel := some i.val, args := [arg id] }).length < opCmdMax :=
  Command.line_short (Nat.le_add_left 1 3) fun v hv => by
    rw [List.mem_singleton.mp hv]
    exact printInt_arg id

theorem emit_short {l : Bytes} (h : l.length < opCmdMax) : emit l = l := if_neg (Nat.not_le_of_lt h)

/-- The device behind a `periodic_stop` that ended like this. -/
def stopped (i : Fin 10) (slot : Nat) (c : Nat × Option OpReply × OpDevice) : OpDevice :=
  if c.1 = statusNoerror ∨ c.1 = errInvalidMsgId then
    c.2.2.setCh i { c.2.2.ch i with periodic := periodicDrop (c.2.2.ch i).periodic slot }
  else c.2.2

theorem periodicStop_gave (x : Exchange) (d : OpDevice) (i : Fin 10) (slot : Nat) :
    ∃ c, Gave d ⟨{ verb := 0x6e, channel := some i.val
                   args := [arg ((d.ch i).periodic.getD slot 0)] }, []⟩ c ∧
      (periodicStop x d i slot).1 = c.1 ∧ (periodicStop x d i slot).2 = stopped i slot c := by
  have hshort := short_stop i ((d.ch i).periodic.getD slot 0)
  refine ⟨_, simpleCmd_gave x d (emit_short hshort) hshort (Nat.zero_le _)
    (by simp) opDefaultCmdMs, ?_⟩
  unfold periodicStop opCmdPeriodicStop stopped
  simp only
  split
  · exact ⟨rfl, rfl⟩
  · exact ⟨rfl, rfl⟩

/-- Looking an id up finds no slot where it is no entry. -/
theorem findIdx_periodic {ids : List UInt32} {id : UInt32} :
    ids.findIdx (· == id) = ids.length ↔ id ∉ ids := by
  rw [List.findIdx_eq_length]
  constructor
  · intro h hm
    exact absurd (h id hm) (by simp)
  · intro h x hx
    refine beq_eq_false_iff_ne.mpr fun e => h ?_
    rw [← e]
    exact hx

/-- **What `PassThruStopPeriodicMsg` does on an open channel**: it refuses an id that is not in
    the table, and asks for the stop of one that is. -/
theorem passThruStopPeriodicMsg_cases (env : CallEnv) (s : Driver) (hopened : s.dev.opened = true)
    {channelID : UInt64} {i : Fin 10} (hi : channelOf s.dev channelID = some i) (msgID : UInt64) :
    (msgID.toUInt32 ∉ (s.dev.ch i).periodic ∧
        (passThruStopPeriodicMsg env s channelID msgID).code = errInvalidMsgId ∧
        (passThruStopPeriodicMsg env s channelID msgID).drv.dev = s.dev) ∨
      msgID.toUInt32 ∈ (s.dev.ch i).periodic ∧
        ∃ c, Gave s.dev ⟨{ verb := 0x6e, channel := some i.val, args := [arg msgID.toUInt32] }, []⟩
          c ∧
          (passThruStopPeriodicMsg env s channelID msgID).code = c.1 ∧
          (passThruStopPeriodicMsg env s channelID msgID).drv.dev =
            stopped i ((s.dev.ch i).periodic.findIdx (· == msgID.toUInt32)) c := by
  have hcall : passThruStopPeriodicMsg env s channelID msgID =
      if (s.dev.ch i).periodic.findIdx (· == msgID.toUInt32) = (s.dev.ch i).periodic.length then
        s.errClear.fail errInvalidMsgId "PassThruStopPeriodicMsg"
      else
        let r := periodicStop (env.exchange 0) s.dev i
          ((s.dev.ch i).periodic.findIdx (· == msgID.toUInt32))
        { s.errClear with dev := r.2 }.failed r.1 "PassThruStopPeriodicMsg" := by
    have hi' : channelOf s.errClear.dev channelID = some i := hi
    have hno : ¬(!s.errClear.dev.opened) = true := by
      rw [show s.errClear.dev.opened = true from hopened]
      decide
    unfold passThruStopPeriodicMsg
    simp only
    rw [if_neg hno, hi']
    rfl
  rw [hcall]
  by_cases hm : msgID.toUInt32 ∈ (s.dev.ch i).periodic
  · have hslot := fun e => findIdx_periodic.mp e hm
    rw [if_neg hslot]
    obtain ⟨c, hgave, hcode, hdev⟩ := periodicStop_gave (env.exchange 0) s.dev i
      ((s.dev.ch i).periodic.findIdx (· == msgID.toUInt32))
    rw [periodic_found hslot] at hgave
    refine Or.inr ⟨hm, c, hgave, hcode, ?_⟩
    rw [Driver.failed_dev]
    exact hdev
  · rw [if_pos (findIdx_periodic.mpr hm)]
    exact Or.inl ⟨hm, rfl, Driver.fail_dev _ _ _⟩

/-- A stop keeps both sides in step. -/
theorem stopPeriodic_inStep (h : InStep s.dev p) {channelID msgID : UInt64}
    (hb : p.Between s.dev (passThruStopPeriodicMsg env s channelID msgID).drv.dev p') :
    InStep (passThruStopPeriodicMsg env s channelID msgID).drv.dev p' := by
  cases hi : channelOf s.dev channelID with
  | none =>
      have hsame : (passThruStopPeriodicMsg env s channelID msgID).drv.dev = s.dev := by
        have hi' : channelOf s.errClear.dev channelID = none := hi
        unfold passThruStopPeriodicMsg
        simp only
        rw [hi']
        split
        · exact Driver.fail_dev _ _ _
        · exact Driver.fail_dev _ _ _
      rw [hb.silent (congrArg OpDevice.log hsame), hsame]
      exact h
  | some i =>
      obtain ⟨hopen, -⟩ := channelOf_some hi
      have hmirror := h.mirrors i hopen
      rcases passThruStopPeriodicMsg_cases env s h.opened hi msgID with
        ⟨-, -, hdev⟩ | ⟨hm, c, hc, -, hdev⟩
      · rw [hb.silent (congrArg OpDevice.log hdev), hdev]
        exact h
      have hnow := h.gave hc
      have hlog : (passThruStopPeriodicMsg env s channelID msgID).drv.dev.log = c.2.2.log := by
        rw [hdev]
        unfold stopped
        split <;> rfl
      generalize hslot : (s.dev.ch i).periodic.findIdx (· == msgID.toUInt32) = slot at hdev
      have hlt : slot < (s.dev.ch i).periodic.length := by
        rw [← hslot]
        exact Nat.lt_of_le_of_ne List.findIdx_le_length fun e => findIdx_periodic.mp e hm
      have hfound : (s.dev.ch i).periodic[slot] = msgID.toUInt32 := by
        have hget : (s.dev.ch i).periodic.getD
            ((s.dev.ch i).periodic.findIdx (· == msgID.toUInt32)) 0 = msgID.toUInt32 :=
          periodic_found fun e => findIdx_periodic.mp e hm
        rwa [hslot, List.getD_eq_getElem _ _ hlt] at hget
      rw [hdev]
      unfold stopped
      rcases hc.ended with ⟨hsame, ⟨st, hst, hcode⟩, -⟩ | ⟨t, ht, hsent, -, hcode⟩
      · -- never given: the code is no answer of the cable's
        obtain ⟨h0, -, h13⟩ := opStatusToJ2534_other hst
        rw [hb.silent (hlog.trans hsame), hcode, if_neg (not_or.mpr ⟨h0, h13⟩)]
        exact hnow
      · obtain ⟨r, hr, ho⟩ := hsent.obeys (hb.one (hlog.trans ht))
        have ho : p.Stop i.val (arg msgID.toUInt32) r p' := ho
        rw [hcode r hr]
        cases ho with
        | stopped v hv _ hk =>
            obtain rfl := arg_inj hv
            rw [replyToStatus_ok hk, if_pos (Or.inl rfl)]
            refine hnow.setCh (fun j e => Schedule.stop_other e) (?_) ?_
            · intro _
              rw [Schedule.stop_live, hc.kept.periodic, ← hfound]
              exact hmirror.swapRemove hlt 0
            · intro hshut
              exact absurd (((hc.kept.isOpen i).trans hopen).symm.trans hshut) (by decide)
        | held v _ _ hk h0 h13 =>
            rw [replyToStatus_error hk, if_neg]
            · exact hnow
            rintro (e | e)
            · exact h0 (deviceError_zero.mp e)
            · exact h13 (deviceError_eq (by decide) e)
        | unknown hno _ _ =>
            exact absurd rfl (hno _ ((hmirror.mem _).mp hm))

/-! ## 4. Opening and closing -/

theorem short_close (i : Fin 10) :
    (Command.line { verb := 0x63, channel := some i.val }).length < opCmdMax :=
  Command.line_short (Nat.zero_le 4) fun _ hv => (nomatch hv)

/-- `atc` -/
def askClose (i : Fin 10) : Ask := ⟨{ verb := 0x63, channel := some i.val }, []⟩

theorem close_gave (x : Exchange) (d : OpDevice) (i : Fin 10) :
    Gave d (askClose i) (simpleCmd x d (opCmdClose i.val) [] opDefaultCmdMs) :=
  simpleCmd_gave x d (emit_short (short_close i)) (short_close i) (Nat.zero_le _)
    (by simp) opDefaultCmdMs

/-- **What `PassThruDisconnect` does**: nothing, or it gives `atc` and forgets the channel whatever
    comes of it. -/
theorem passThruDisconnect_cases (env : CallEnv) (s : Driver) (channelID : UInt64) :
    (passThruDisconnect env s channelID).drv.dev = s.dev ∨
      ∃ i c, Gave s.dev (askClose i) c ∧
        (passThruDisconnect env s channelID).drv.dev = opDeviceCloseChannel c.2.2 i := by
  unfold passThruDisconnect
  simp only
  split
  · exact Or.inl (Driver.fail_dev _ _ _)
  split
  · exact Or.inl (Driver.fail_dev _ _ _)
  · rename_i i hi
    exact Or.inr ⟨i, _, close_gave (env.exchange 0) s.dev i, Driver.failed_dev _ _ _⟩

/-- A disconnect leaves nothing on the channel, on either side. -/
theorem disconnect_inStep (h : InStep s.dev p) {channelID : UInt64}
    (hb : p.Between s.dev (passThruDisconnect env s channelID).drv.dev p') :
    InStep (passThruDisconnect env s channelID).drv.dev p' := by
  rcases passThruDisconnect_cases env s channelID with hdev | ⟨i, c, hc, hdev⟩
  · rw [hb.silent (congrArg OpDevice.log hdev), hdev]
    exact h
  have hlog : (passThruDisconnect env s channelID).drv.dev.log = c.2.2.log := by
    rw [hdev]
    rfl
  have hnow := h.gave hc
  rw [hdev]
  rcases hc.ended with ⟨hsame, -, hlost⟩ | ⟨t, ht, hsent, -, -⟩
  · -- `atc` was not given: the cable is gone
    rw [hb.silent (hlog.trans hsame)]
    refine hnow.setCh (fun _ _ => rfl) (fun e => (nomatch e)) fun _ => Or.inl (hlost h.opened)
  · obtain ⟨r, -, ho⟩ := hsent.obeys (hb.one (hlog.trans ht))
    obtain rfl : p' = p.clear i.val := ho
    refine hnow.setCh (fun j e => Schedule.clear_other e) (fun e => (nomatch e)) ?_
    intro _
    exact Or.inr Schedule.clear_live

/-- `ato` -/
def askOpen (fw : Fin 10) (flags baudRate : UInt64) : Ask :=
  ⟨{ verb := 0x6f, channel := some fw.val, args := [printed flags, printed baudRate, 0] }, []⟩

theorem open_gave (x : Exchange) (d : OpDevice) (fw : Fin 10) (flags baudRate : UInt64) :
    Gave d (askOpen fw flags baudRate)
      (simpleCmd x d (opCmdOpen fw.val flags.toUInt32 baudRate.toUInt32) [] opDefaultCmdMs) := by
  have hshort : (Command.line { verb := 0x6f, channel := some fw.val
                                args := [printed flags, printed baudRate, 0] }).length <
                                  opCmdMax := by
    refine Command.line_short (Nat.le_add_right 3 1) ?_
    intro v hv
    simp only [List.mem_cons, List.not_mem_nil, or_false] at hv
    rcases hv with rfl | rfl | rfl
    · exact printInt_arg _
    · exact printInt_arg _
    · decide
  exact simpleCmd_gave x d (emit_short hshort) hshort (Nat.zero_le _) (by simp) opDefaultCmdMs

/-- **What `PassThruConnect` does**: nothing, or it gives `ato` for a closed channel, and where that
    succeeds opens the channel with an empty table or, without memory, gives `atc` behind it. -/
theorem passThruConnect_ends (env : CallEnv) (s : Driver)
    (deviceID protocolID flags baudRate : UInt64) (pChannelID : Bool) :
    let dev := (passThruConnect env s deviceID protocolID flags baudRate pChannelID).drv.dev
    dev = s.dev ∨ ∃ fw c, (s.dev.ch fw).isOpen = false ∧ Gave s.dev (askOpen fw flags baudRate) c ∧
      (dev = c.2.2 ∨ c.1 = statusNoerror ∧
        ((∃ m, dev = c.2.2.setCh fw
          { rq := some m, isOpen := true, protocol := protocolID.toUInt32 }) ∨
          ∃ c', Gave (c.2.2.setCh fw {}) (askClose fw) c' ∧ dev = c'.2.2)) := by
  have hon : ∀ fw, (s.dev.ch fw).isOpen = false →
      let dev := (connectOn env s.errClear fw protocolID flags baudRate).drv.dev
      dev = s.dev ∨ ∃ fw c, (s.dev.ch fw).isOpen = false ∧
        Gave s.dev (askOpen fw flags baudRate) c ∧
        (dev = c.2.2 ∨ c.1 = statusNoerror ∧
          ((∃ m, dev = c.2.2.setCh fw
            { rq := some m, isOpen := true, protocol := protocolID.toUInt32 }) ∨
            ∃ c', Gave (c.2.2.setCh fw {}) (askClose fw) c' ∧ dev = c'.2.2)) := by
    intro fw hclosed
    have hc := open_gave (env.exchange 0) s.errClear.dev fw flags baudRate
    unfold connectOn
    simp only
    split
    · exact Or.inl (Driver.fail_dev _ _ _)
    refine Or.inr ⟨fw, _, hclosed, hc, ?_⟩
    generalize simpleCmd (env.exchange 0) s.errClear.dev
      (opCmdOpen fw.val flags.toUInt32 baudRate.toUInt32) [] opDefaultCmdMs = c
    split
    · exact Or.inl (Driver.fail_dev _ _ _)
    rename_i hgood
    refine Or.inr ⟨Decidable.not_not.mp hgood, ?_⟩
    unfold opDeviceOpenChannel openChannel
    cases (c.2.2.ch fw).rq <|> env.mem with
    | none => exact Or.inr ⟨_, close_gave (env.exchange 1) _ fw, rfl⟩
    | some m => exact Or.inl ⟨m, rfl⟩
  unfold passThruConnect
  simp only
  split
  · exact Or.inl (Driver.fail_dev _ _ _)
  split
  · exact Or.inl (Driver.fail_dev _ _ _)
  split
  · exact Or.inl (Driver.fail_dev _ _ _)
  rename_i fw hfw
  split
  · exact Or.inl (Driver.fail_dev _ _ _)
  rename_i hclosed
  split
  · exact Or.inl (Driver.failText_dev _ _ _)
  split
  · exact Or.inl (Driver.fail_dev _ _ _)
  split
  · exact Or.inl (Driver.failText_dev _ _ _)
  · exact hon fw (Bool.eq_false_iff.mpr hclosed)

/-- A connect begins with nothing on the channel, on either side. -/
theorem connect_inStep (h : InStep s.dev p) {deviceID protocolID flags baudRate : UInt64}
    {pChannelID : Bool}
    (hb : p.Between s.dev
      (passThruConnect env s deviceID protocolID flags baudRate pChannelID).drv.dev p') :
    InStep (passThruConnect env s deviceID protocolID flags baudRate pChannelID).drv.dev p' := by
  have hends := passThruConnect_ends env s deviceID protocolID flags baudRate pChannelID
  generalize (passThruConnect env s deviceID protocolID flags baudRate pChannelID).drv.dev =
    dev at *
  rcases hends with rfl | ⟨fw, c, hclosed, hc, hend⟩
  · rw [hb.silent rfl]
    exact h
  have hopens : ∀ {q t}, (askOpen fw flags baudRate).Sent t → p.Serves t q → q = p :=
    fun hsent hs => by
      obtain ⟨r, -, ho⟩ := hsent.obeys hs
      exact ho
  have hnow := h.gave hc
  rcases hend with rfl | ⟨hgood, hend⟩
  · rcases hc.ended with ⟨hsame, -, -⟩ | ⟨t, ht, hsent, -, -⟩
    · rw [hb.silent hsame]
      exact hnow
    · rw [hopens hsent (hb.one ht)]
      exact hnow
  -- the command succeeded: the cable was there, and nothing ran on a closed channel
  have hnone : p.live fw.val = ∅ :=
    (h.quiet fw hclosed).resolve_left fun hl => (hc.lost hl).1 hgood
  rcases hc.ended with ⟨-, ⟨st, hst, hcode⟩, -⟩ | ⟨t, ht, hsent, -, -⟩
  · exact absurd (hcode.symm.trans hgood) (opStatusToJ2534_other hst).1
  rcases hend with ⟨m, rfl⟩ | ⟨c', hc', rfl⟩
  · rw [hopens hsent (hb.one ht)]
    refine hnow.setCh (fun _ _ => rfl) (?_) fun e => (nomatch e)
    intro _
    rw [hnone]
    exact mirrors_nil
  · have hblank : InStep (c.2.2.setCh fw {}) p :=
      hnow.setCh (fun _ _ => rfl) (fun e => (nomatch e)) fun _ => Or.inr hnone
    have hlast := hblank.gave hc'
    rcases hc'.ended with ⟨hsame, -, -⟩ | ⟨u, hu, hsent', -, -⟩
    · rw [hopens hsent (hb.one (hsame.trans ht))]
      exact hlast
    · obtain ⟨q, hq, hq'⟩ := hb.two (hu.trans (congrArg (Event.txn u :: ·) ht))
      obtain rfl := hopens hsent hq
      obtain ⟨r, -, ho⟩ := hsent'.obeys hq'
      obtain rfl : p' = q.clear fw.val := ho
      -- the channel is closed already, and clearing it changes nothing
      have hlive : ∀ j, (q.clear fw.val).live j = q.live j := fun j => by
        by_cases e : j = fw.val
        · rw [e, Schedule.clear_live, hnone]
        · exact Schedule.clear_other e
      refine ⟨hlast.opened, ?_, ?_⟩
      · intro i ho
        rw [hlive]
        exact hlast.mirrors i ho
      · intro i hi
        rw [hlive]
        exact hlast.quiet i hi

/-! ## 5. The limit -/

/-- The arguments of a start pass the checks that come before the table's. -/
def StartChecked (s : Driver) (i : Fin 10) (m : PassThruMsg) (timeInterval : UInt64) : Prop :=
  timeInterval ≠ 0 ∧ timeInterval.toNat ≤ 0xFFFFFFFF / 1000 ∧
    (msgOk s.errClear i m).code = statusNoerror

theorem short_start (i : Fin 10) (us flags : UInt32) {len : Nat} (h : len ≤ opMsgMax) :
    (Command.line { verb := 0x6d, channel := some i.val
                    args := [arg us, 0, arg flags, (len : Int)] }).length < opCmdMax := by
  refine Command.line_short (Nat.le_refl 4) ?_
  intro v hv
  simp only [List.mem_cons, List.not_mem_nil, or_false] at hv
  rcases hv with rfl | rfl | rfl | rfl
  · exact printInt_arg us
  · decide
  · exact printInt_arg flags
  · have hmax : opMsgMax < 10 ^ 10 := by decide
    exact decimal_length_le (by decide) (Nat.lt_of_le_of_lt h hmax)

/-- `atm` -/
def askStart (i : Fin 10) (us : UInt32) (m : PassThruMsg) : Ask :=
  ⟨{ verb := 0x6d, channel := some i.val
     args := [arg us, 0, arg m.txFlags.toUInt32, (m.dataSize.toNat : Int)] }, m.payload⟩

theorem start_gave (x : Exchange) (d : OpDevice) (i : Fin 10) (us : UInt32) (m : PassThruMsg)
    (hline : opCmdPeriodicStart i.val us m.txFlags.toUInt32 m.dataSize.toNat ≠ []) :
    Gave d (askStart i us m)
      (simpleCmd x d (opCmdPeriodicStart i.val us m.txFlags.toUInt32 m.dataSize.toNat) m.payload
        opDefaultCmdMs) := by
  unfold opCmdPeriodicStart at hline ⊢
  by_cases hsize : m.dataSize.toNat = 0 ∨ opMsgMax < m.dataSize.toNat
  · rw [if_pos hsize] at hline
    exact absurd rfl hline
  · rw [if_neg hsize]
    have hle : m.dataSize.toNat ≤ opMsgMax := Nat.le_of_not_lt fun hlt => hsize (Or.inr hlt)
    have hshort := short_start i us m.txFlags.toUInt32 hle
    exact simpleCmd_gave x d (emit_short hshort) hshort (m.payload_length ▸ hle)
      (by simp) opDefaultCmdMs

/-- **A start whose arguments pass their checks exceeds the limit exactly where ten run.** -/
theorem startPeriodic_exceeds (h : InStep s.dev p) {channelID : UInt64} {i : Fin 10}
    (hi : channelOf s.dev channelID = some i) {m : PassThruMsg} {timeInterval : UInt64}
    (hok : StartChecked s i m timeInterval)
    (hb : p.Between s.dev
      (passThruStartPeriodicMsg env s channelID (some m) true timeInterval).drv.dev p') :
    (passThruStartPeriodicMsg env s channelID (some m) true timeInterval).code = errExceededLimit ↔
      (p.live i.val).card = opPeriodicPerCh := by
  obtain ⟨hopen, hid⟩ := channelOf_some hi
  obtain ⟨hzero, hmax, hmsg⟩ := hok
  have hlen := (h.mirrors i hopen).length
  have hroom := p.room i.val
  have hi' : channelOf s.errClear.dev channelID = some i := hi
  have hno : ¬(!s.errClear.dev.opened) = true := by
    rw [show s.errClear.dev.opened = true from h.opened]
    decide
  unfold passThruStartPeriodicMsg at hb ⊢
  simp only at hb ⊢
  rw [if_neg hno, hi'] at hb ⊢
  simp only at hb ⊢
  rw [if_neg (not_or.mpr ⟨hzero, Nat.not_lt.mpr hmax⟩), if_neg (not_not_intro hmsg)] at hb ⊢
  by_cases hfull : opPeriodicPerCh ≤ (s.errClear.dev.ch i).periodic.length
  · rw [if_pos hfull]
    have hfull : opPeriodicPerCh ≤ (s.dev.ch i).periodic.length := hfull
    exact ⟨fun _ => by omega, fun _ => rfl⟩
  rw [if_neg hfull] at hb ⊢
  have hfull : ¬opPeriodicPerCh ≤ (s.dev.ch i).periodic.length := hfull
  refine ⟨?_, fun hten => by omega⟩
  intro hcode
  by_cases hline : opCmdPeriodicStart i.val (timeInterval.toUInt32 * 1000) m.txFlags.toUInt32
      m.dataSize.toNat = []
  · rw [if_pos hline, Driver.fail_code] at hcode
    exact absurd hcode (by decide)
  rw [if_neg hline] at hb hcode
  have hc := start_gave (env.exchange 0) s.errClear.dev i (timeInterval.toUInt32 * 1000) m hline
  generalize simpleCmd (env.exchange 0) s.errClear.dev (opCmdPeriodicStart i.val
    (timeInterval.toUInt32 * 1000) m.txFlags.toUInt32 m.dataSize.toNat) m.payload opDefaultCmdMs = c
    at hb hcode hc
  by_cases hbad : c.1 ≠ statusNoerror
  · rw [if_pos hbad] at hb hcode
    rw [Driver.fail_dev] at hb
    rw [Driver.fail_code] at hcode
    rcases hc.ended with ⟨-, ⟨st, hst, hc1⟩, -⟩ | ⟨t, ht, hsent, -, hc1⟩
    · exact absurd (hc1.symm.trans hcode) (opStatusToJ2534_other hst).2.1
    · -- the cable's own refusal: it says 12 only with ten running
      obtain ⟨r, hr, ho⟩ := hsent.obeys (hb.one ht)
      have ho : p.Start i.val r p' := ho
      cases ho with
      | started _ hk _ =>
          refine absurd ((hc1 r hr).trans (replyToStatus_ok ?_)) hbad
          intro e
          rw [hk] at e
          cases e
      | declined hk h12 =>
          have hst := (hc1 r hr).symm.trans hcode
          rw [replyToStatus_error hk] at hst
          exact h12.mp (deviceError_eq (by decide) hst)
  · rw [if_neg hbad] at hcode
    split at hcode
    · rw [Driver.fail_code] at hcode
      exact absurd hcode (by decide)
    · rw [Driver.done_code] at hcode
      exact absurd hcode (by decide)

/-- The stop of an id on a channel was put on the wire between two states. -/
def StopSent (d d' : OpDevice) (i : Fin 10) (id : UInt32) : Prop :=
  ∃ t rest, d'.log = .txn t :: d.log ∧ t.command = some ⟨0x6e, some i.val, arg id :: rest⟩

/-- **A stop reaches the cable exactly where the id it names is running**, as long as the cable is
    there. -/
theorem stopPeriodic_reaches (h : InStep s.dev p) {channelID : UInt64} {i : Fin 10}
    (hi : channelOf s.dev channelID = some i) (msgID : UInt64)
    (hthere : (passThruStopPeriodicMsg env s channelID msgID).drv.dev.lost = false) :
    StopSent s.dev (passThruStopPeriodicMsg env s channelID msgID).drv.dev i msgID.toUInt32 ↔
      msgID.toUInt32 ∈ p.live i.val := by
  have hmirror := h.mirrors i (channelOf_some hi).1
  rw [← hmirror.mem]
  rcases passThruStopPeriodicMsg_cases env s h.opened hi msgID with
    ⟨hno, -, hdev⟩ | ⟨hm, c, hc, -, hdev⟩
  · refine ⟨?_, fun hm => absurd hm hno⟩
    rintro ⟨t, rest, hlog, _⟩
    rw [hdev] at hlog
    exact absurd hlog.symm (List.cons_ne_self _ _)
  · refine ⟨fun _ => hm, ?_⟩
    intro _
    have hsame : (passThruStopPeriodicMsg env s channelID msgID).drv.dev.log = c.2.2.log ∧
        (passThruStopPeriodicMsg env s channelID msgID).drv.dev.lost = c.2.2.lost := by
      rw [hdev]
      unfold stopped
      split <;> exact ⟨rfl, rfl⟩
    rcases hc.ended with ⟨-, -, hlost⟩ | ⟨t, ht, hsent, -, -⟩
    · rw [hsame.2, hlost h.opened] at hthere
      cases hthere
    · exact ⟨t, _, hsame.1.trans ht, hsent.command⟩

end Entry

/-! ## 6. Runs -/

/-- The calls that touch periodic messages or open and close their channels within a session. -/
def Call.schedules : Call → Prop
  | .passThruStartPeriodicMsg _ _ _ _ => True
  | .passThruStopPeriodicMsg _ _ => True
  | .passThruConnect _ _ _ _ _ => True
  | .passThruDisconnect _ => True
  | .passThruIoctl _ id _ _ => id = clearPeriodicMsgs
  | _ => False

/-- One of these calls, every command of which the cable answered, or an arrival between two. -/
inductive PeriodicStep : Driver × Schedule → Driver × Schedule → Prop where
  | call (s s' : Driver) (p p' : Schedule) (c : Call) (fuel : Nat) (env : CallEnv) (code : Nat) :
      c.schedules → c.run fuel env s = some (code, s') → p.Between s.dev s'.dev p' →
      PeriodicStep (s, p) (s', p')
  | arrive (s : Driver) (p : Schedule) (a : Arrival) :
      PeriodicStep (s, p) ({ s with dev := arrive s.dev a }, p)

/-- **A step keeps both sides in step.** -/
theorem inStep_step {x y : Driver × Schedule} (h : InStep x.1.dev x.2) (hstep : PeriodicStep x y) :
    InStep y.1.dev y.2 := by
  cases hstep with
  | arrive s p a => exact h.kept (arrive_steady s.dev a).kept fun hl => arrive_lost hl a
  | call s s' p p' c fuel env code hc hrun hb =>
      cases c with
      | passThruStartPeriodicMsg ch m out interval =>
          cases hrun
          exact startPeriodic_inStep h hb
      | passThruStopPeriodicMsg ch id =>
          cases hrun
          exact stopPeriodic_inStep h hb
      | passThruConnect id protocolID flags baud out =>
          cases hrun
          exact connect_inStep h hb
      | passThruDisconnect ch =>
          cases hrun
          exact disconnect_inStep h hb
      | passThruIoctl ch id input output =>
          obtain rfl : id = clearPeriodicMsgs := hc
          cases hrun
          exact clearPeriodic_inStep h hb
      | _ => cases hc

/-- A session with no channel open, and a cable on which nothing runs. -/
structure Fresh (d : OpDevice) (p : Schedule) : Prop where
  opened : d.opened = true
  closed : ∀ i, (d.ch i).isOpen = false
  none : ∀ ch, p.live ch = ∅

theorem Fresh.inStep {d : OpDevice} {p : Schedule} (h : Fresh d p) : InStep d p :=
  ⟨h.opened, fun i ho => absurd ((h.closed i).symm.trans ho) (by decide),
    fun i _ => Or.inr (h.none i)⟩

/-- What the host may rely on for a channel: its table has what runs there, each once and ten at
    most; a stop reaches the cable exactly for what runs, the id read by its low 32 bits; and a
    start exceeds the limit exactly where ten run. -/
structure Mirrored (s : Driver) (p : Schedule) (channelID : UInt64) (i : Fin 10) : Prop where
  distinct : (s.dev.ch i).periodic.Nodup
  live : ∀ id, id ∈ (s.dev.ch i).periodic ↔ id ∈ p.live i.val
  length : (s.dev.ch i).periodic.length ≤ opPeriodicPerCh
  stops : ∀ env msgID, (passThruStopPeriodicMsg env s channelID msgID).drv.dev.lost = false →
    (StopSent s.dev (passThruStopPeriodicMsg env s channelID msgID).drv.dev i msgID.toUInt32 ↔
      msgID.toUInt32 ∈ p.live i.val)
  exceeds : ∀ env m timeInterval p', StartChecked s i m timeInterval →
    p.Between s.dev (passThruStartPeriodicMsg env s channelID (some m) true timeInterval).drv.dev
      p' →
    ((passThruStartPeriodicMsg env s channelID (some m) true timeInterval).code = errExceededLimit ↔
      (p.live i.val).card = opPeriodicPerCh)

/-- **The host's periodic table is the cable's**, for every open channel, after every run of starts,
    stops, clears, connects and disconnects whose commands are answered. -/
theorem periodic_mirrored {s₀ s : Driver} {p₀ p : Schedule} (h₀ : Fresh s₀.dev p₀)
    (hrun : Relation.ReflTransGen PeriodicStep (s₀, p₀) (s, p)) {channelID : UInt64} {i : Fin 10}
    (hi : channelOf s.dev channelID = some i) : Mirrored s p channelID i := by
  have h : InStep s.dev p := by
    have hall : ∀ y, Relation.ReflTransGen PeriodicStep (s₀, p₀) y → InStep y.1.dev y.2 := by
      intro y hy
      induction hy with
      | refl => exact h₀.inStep
      | tail _ hs ih => exact inStep_step ih hs
    exact hall (s, p) hrun
  have hmirror := h.mirrors i (channelOf_some hi).1
  refine ⟨hmirror.nodup, hmirror.mem, ?_, ?_,
    ?_⟩
  · rw [hmirror.length]
    exact p.room i.val
  · intro env msgID hthere
    exact stopPeriodic_reaches h hi msgID hthere
  · intro env m timeInterval p' hok hb
    exact startPeriodic_exceeds h hi hok hb

/-- One byte for the K line. -/
def tickMsg : PassThruMsg := { protocolID := iso9141, dataSize := 1 }

/-- The driver behind a start on the K line, answered with the id 7. -/
def tickDriver : Driver :=
  (passThruStartPeriodicMsg
    { exchange := fun _ => answeredBy (ascii "arm3 7 259\r\n") } kLineDriver 3
    (some tickMsg) true 100).drv

/-- What the connect and the start put on the wire. -/
def kLineTxn : Txn :=
  { line := ascii "ato3 0 10400 0 258\r\n", payload := [], seq := 258, waited := true,
    timeoutMs := 1000
    written := .ok, result := .ok, reply := some { kind := .ok, tail := [258] } }

def tickTxn : Txn :=
  { line := ascii "atm3 100000 0 0 1 259\r\n", payload := [0], seq := 259, waited := true
    timeoutMs := 1000, written := .ok, result := .ok
    reply := some { kind := .periodic, channel := 3, a := 7, tail := [259] } }

/-- The cable behind it. -/
def tickSchedule : Schedule := Schedule.empty.start 3 7 (by decide)

theorem fresh_opened : Fresh openedDriver.dev Schedule.empty :=
  ⟨by decide, by decide, fun _ => rfl⟩

theorem tickDriver_run : Relation.ReflTransGen PeriodicStep (openedDriver, Schedule.empty)
    (tickDriver, tickSchedule) := by
  refine .tail (.tail .refl (.call _ kLineDriver _ Schedule.empty
    (.passThruConnect 1 iso9141 0 10400 true) 0 (okEnv 258) statusNoerror trivial rfl ?_))
    (.call _ _ _ _ (.passThruStartPeriodicMsg 3 (some tickMsg) true 100) 0
      { exchange := fun _ => answeredBy (ascii "arm3 7 259\r\n") } statusNoerror trivial rfl ?_)
  · refine ⟨[kLineTxn], by decide,
      .cons ⟨⟨0x6f, some 3, [0, 10400, 0, 258]⟩, _, by decide, rfl, rfl⟩ (.nil _)⟩
  · refine ⟨[tickTxn], by decide,
      .cons ⟨⟨0x6d, some 3, [100000, 0, 0, 1, 259]⟩, _, by decide, rfl, ?_⟩ (.nil _)⟩
    exact .started (by decide) rfl (Finset.notMem_empty _)

/-- A command for the K line whose answer is read. -/
def tickSent (line : String) (payload : Bytes) (seq : UInt32) (reply : OpReply) : Txn :=
  { line := ascii line, payload := payload, seq := seq, waited := true, timeoutMs := 1000
    written := .ok, result := .ok, reply := some reply }

/-- A second message is started and given the id 8. -/
def twoTicks : Driver :=
  (passThruStartPeriodicMsg
    { exchange := fun _ => answeredBy (ascii "arm3 8 260\r\n") } tickDriver 3
    (some tickMsg) true 100).drv

/-- The first is stopped. -/
def stoppedTick : Driver := (passThruStopPeriodicMsg (okEnv 261) twoTicks 3 7).drv

/-- The channel is cleared. -/
def clearedTick : Driver :=
  (passThruIoctl (okEnv 262) stoppedTick 3 clearPeriodicMsgs {} {}).drv

/-- A third message is given the id 9. -/
def thirdTick : Driver :=
  (passThruStartPeriodicMsg
    { exchange := fun _ => answeredBy (ascii "arm3 9 263\r\n") } clearedTick 3
    (some tickMsg) true 100).drv

def twoSchedule : Schedule := tickSchedule.start 3 8 (by decide)

def stoppedSchedule : Schedule := twoSchedule.stop 3 7

def thirdSchedule : Schedule := (stoppedSchedule.clear 3).start 3 9 (by decide)

theorem twoTicks_run : Relation.ReflTransGen PeriodicStep (tickDriver, tickSchedule)
    (twoTicks, twoSchedule) := by
  refine .single (.call _ _ _ _ (.passThruStartPeriodicMsg 3 (some tickMsg) true 100) 0
    { exchange := fun _ => answeredBy (ascii "arm3 8 260\r\n") } statusNoerror trivial rfl
    ⟨[tickSent "atm3 100000 0 0 1 260\r\n" [0] 260
      { kind := .periodic, channel := 3, a := 8, tail := [260] }], by decide +kernel, ?_⟩)
  refine .cons ⟨⟨0x6d, some 3, [100000, 0, 0, 1, 260]⟩, _, by decide, rfl, ?_⟩ (.nil _)
  exact .started (by decide) rfl (by decide)

theorem stoppedTick_run : Relation.ReflTransGen PeriodicStep (twoTicks, twoSchedule)
    (stoppedTick, stoppedSchedule) := by
  refine .single (.call _ _ _ _ (.passThruStopPeriodicMsg 3 7) 0 (okEnv 261) statusNoerror trivial
    rfl ⟨[tickSent "atn3 7 261\r\n" [] 261 { kind := .ok, tail := [261] }], by decide +kernel, ?_⟩)
  refine .cons ⟨⟨0x6e, some 3, [7, 261]⟩, _, by decide, rfl, ?_⟩ (.nil _)
  exact .stopped 7 rfl (by decide) (by decide)

theorem clearedTick_run : Relation.ReflTransGen PeriodicStep (stoppedTick, stoppedSchedule)
    (clearedTick, stoppedSchedule.clear 3) := by
  refine .single (.call _ _ _ _ (.passThruIoctl 3 clearPeriodicMsgs {} {}) 0 (okEnv 262)
    statusNoerror rfl rfl
    ⟨[tickSent "atl3 262\r\n" [] 262 { kind := .ok, tail := [262] }], by decide +kernel, ?_⟩)
  refine .cons ⟨⟨0x6c, some 3, [262]⟩, _, by decide, rfl, ?_⟩ (.nil _)
  exact .cleared (by decide)

theorem thirdTick_run : Relation.ReflTransGen PeriodicStep
    (clearedTick, stoppedSchedule.clear 3) (thirdTick, thirdSchedule) := by
  refine .single (.call _ _ _ _ (.passThruStartPeriodicMsg 3 (some tickMsg) true 100) 0
    { exchange := fun _ => answeredBy (ascii "arm3 9 263\r\n") } statusNoerror trivial rfl
    ⟨[tickSent "atm3 100000 0 0 1 263\r\n" [0] 263
      { kind := .periodic, channel := 3, a := 9, tail := [263] }], by decide +kernel, ?_⟩)
  refine .cons ⟨⟨0x6d, some 3, [100000, 0, 0, 1, 263]⟩, _, by decide, rfl, ?_⟩ (.nil _)
  exact .started (by decide) rfl (by decide)

/-- Behind two starts and a stop one message runs; behind a clear and another start the new one
    does. -/
theorem periodic_mirrored_tick :
    ((stoppedTick.dev.ch 3).periodic = [8] ∧ Mirrored stoppedTick stoppedSchedule 3 3) ∧
      (thirdTick.dev.ch 3).periodic = [9] ∧ Mirrored thirdTick thirdSchedule 3 3 := by
  have hstopped := (tickDriver_run.trans twoTicks_run).trans stoppedTick_run
  have hthird := (hstopped.trans clearedTick_run).trans thirdTick_run
  exact ⟨⟨by decide +kernel, periodic_mirrored fresh_opened hstopped (by decide +kernel)⟩,
    by decide +kernel, periodic_mirrored fresh_opened hthird (by decide +kernel)⟩

/-- **A stop reaches the cable though no id it names is running**, where the low 32 bits of one
    are. -/
theorem periodic_stop_wide :
    Relation.ReflTransGen PeriodicStep (openedDriver, Schedule.empty) (tickDriver, tickSchedule) ∧
      (passThruStopPeriodicMsg (okEnv 260) tickDriver 3 0x100000007).drv.dev.lost = false ∧
      ¬((∃ id, StopSent tickDriver.dev
          (passThruStopPeriodicMsg (okEnv 260) tickDriver 3 0x100000007).drv.dev 3 id) ↔
        ∃ id ∈ tickSchedule.live 3, id.toUInt64 = 0x100000007) := by
  refine ⟨tickDriver_run, by decide, ?_⟩
  intro h
  obtain ⟨id, hid, hwide⟩ := h.mp ⟨7, { line := ascii "atn3 7 260\r\n", payload := [], seq := 260
                                        waited := true, timeoutMs := 1000, written :=
                                          .ok, result := .ok
                                        reply := some { kind := .ok, tail := [260] } },
    [260], by decide, by decide⟩
  rw [show tickSchedule.live 3 = {7} from rfl, Finset.mem_singleton] at hid
  rw [hid] at hwide
  exact absurd hwide (by decide)

end Openport
