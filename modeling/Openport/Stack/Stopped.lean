/-
  File:      Openport/Stack/Stopped.lean
  Subject:   A periodic message the application ended is never sent again.

  A start that succeeded and a later stop, clear or disconnect that succeeded are two
  transactions of the log. In the row of the cable the one gives the id out and the other
  ends it, so no thread of the cable has the message any more: `stack_stopped`.
-/
import Openport.Stack.Mirrored

namespace Openport

open Lib Lib.Decimal Lib.Rows Simulator

/-! ## 1. What the calls wrote -/

theorem Commanded.settled {x : Exchange} {d : OpDevice} {c : Nat × Option OpReply × OpDevice}
    (h : Commanded x d c) {t : Txn} (hlog : c.2.2.log = .txn t :: d.log) : t.Settled := by
  obtain ⟨line, payload, timeoutMs, rfl⟩ := h
  rw [simpleCmd_dev] at hlog
  obtain ⟨-, ⟨hsame, -⟩ | ⟨u, hu⟩⟩ := cmdExchange_cases x d line payload timeoutMs true
  · exact absurd (hlog.symm.trans hsame) (List.cons_ne_self _ _)
  · obtain rfl : u = t := Event.txn.inj (List.cons.inj (hu.log.symm.trans hlog)).1
    exact hu.settled

/-- The entry point gave one command, which succeeded. -/
structure Obtained (x : Exchange) (d d' : OpDevice) (c : Nat × Option OpReply × OpDevice) :
    Prop where
  commanded : Commanded x d c
  good : c.1 = statusNoerror
  log : d'.log = c.2.2.log

/-- Then one of the commands it asks for was done. -/
theorem Obtained.done {x : Exchange} {d d' : OpDevice} {c : Nat × Option OpReply × OpDevice}
    (h : Obtained x d d' c) {asks : List Ask} (heff : Effect d d' asks) :
    ∃ (t : Txn) (a : Ask), a ∈ asks ∧ d'.log = .txn t :: d.log ∧ a.Done t ∧ c.2.1 = t.reply := by
  rcases h.commanded.txn with ⟨-, hbad⟩ | ⟨t, hlog, hreply, hacc⟩
  · exact absurd h.good hbad
  obtain ⟨a, ha, hs⟩ := heff.sent (h.log.trans hlog)
  exact ⟨t, a, ha, h.log.trans hlog, ⟨hs, h.commanded.settled hlog, hacc.mp h.good⟩, hreply⟩

/-- What a start that gives out an id wrote. -/
theorem startPeriodic_wrote {env : CallEnv} {s : Driver} {channelID : UInt64}
    {pMsg : Option PassThruMsg} {pMsgID : Bool} {timeInterval id : UInt64}
    (hout : (passThruStartPeriodicMsg env s channelID pMsg pMsgID timeInterval).out = some id) :
    ∃ (t : Txn) (a : Ask) (r : OpReply),
      (passThruStartPeriodicMsg env s channelID pMsg pMsgID timeInterval).drv.dev.log =
        .txn t :: s.dev.log ∧ a.Done t ∧ t.reply = some r ∧ a.command.verb = 0x6d ∧
      a.command.channel = some channelID.toNat ∧ r.kind = .periodic ∧ id = r.a.toUInt64 := by
  obtain ⟨c, r, hc, hgood, hr, hk, hid, hlog⟩ := passThruStartPeriodicMsg_given hout
  obtain ⟨t, a, ha, htxn, hdone, hreply⟩ := Obtained.done ⟨hc, hgood, hlog⟩
    (passThruStartPeriodicMsg_effect env s channelID pMsg pMsgID timeInterval)
  cases pMsg with
  | none => cases ha
  | some m =>
      obtain rfl := List.mem_singleton.mp ha
      exact ⟨t, _, r, htxn, hdone, hreply.symm.trans hr, rfl, rfl, hk, hid⟩

theorem stopPeriodic_obtained {env : CallEnv} {s : Driver} {channelID msgID : UInt64}
    (h : (passThruStopPeriodicMsg env s channelID msgID).code = statusNoerror) :
    ∃ c, Obtained (env.exchange 0) s.dev (passThruStopPeriodicMsg env s channelID msgID).drv.dev
      c := by
  revert h
  unfold passThruStopPeriodicMsg
  simp only
  split
  · exact fun h => absurd ((Driver.fail_code _ _ _).symm.trans h) (by decide)
  split
  · exact fun h => absurd ((Driver.fail_code _ _ _).symm.trans h) (by decide)
  split
  · exact fun h => absurd ((Driver.fail_code _ _ _).symm.trans h) (by decide)
  unfold periodicStop
  simp only
  split
  · exact fun h => ⟨_, ⟨_, _, _, rfl⟩, h, by rw [Driver.failed_dev]; rfl⟩
  · exact fun h => ⟨_, ⟨_, _, _, rfl⟩, h, by rw [Driver.failed_dev]; rfl⟩

theorem disconnect_obtained {env : CallEnv} {s : Driver} {channelID : UInt64}
    (h : (passThruDisconnect env s channelID).code = statusNoerror) :
    ∃ c, Obtained (env.exchange 0) s.dev (passThruDisconnect env s channelID).drv.dev c := by
  revert h
  unfold passThruDisconnect
  simp only
  split
  · exact fun h => absurd ((Driver.fail_code _ _ _).symm.trans h) (by decide)
  split
  · exact fun h => absurd ((Driver.fail_code _ _ _).symm.trans h) (by decide)
  · exact fun h => ⟨_, ⟨_, _, _, rfl⟩, h, by rw [Driver.failed_dev]; rfl⟩

theorem clearPeriodic_obtained {env : CallEnv} {s : Driver} {channelID : UInt64} {input : IoctlIn}
    {output : IoctlOut}
    (h : (passThruIoctl env s channelID clearPeriodicMsgs input output).code = statusNoerror) :
    ∃ c, Obtained (env.exchange 0) s.dev
      (passThruIoctl env s channelID clearPeriodicMsgs input output).drv.dev c := by
  have hend := passThruIoctl_ending env s channelID input output
    (show clearPeriodicMsgs ∈ commandIoctls by decide)
  generalize passThruIoctl env s channelID clearPeriodicMsgs input output = ret at h hend ⊢
  cases hend with
  | refused hbad _ _ => exact absurd h hbad
  | failed _ _ hbad hcode _ _ => exact absurd (hcode.symm.trans h) hbad
  | spoilt _ _ _ hno _ _ _ => exact absurd trivial hno
  | done c hc hgood _ _ hcommit =>
      obtain ⟨i, -, hdev⟩ := hcommit
      exact ⟨c, hc, hgood, by rw [hdev]; rfl⟩

/-- A call that ends a message of the channel, and succeeds. -/
inductive EndsBy (i : Fin 10) (v : UInt32) (s : Driver) : Driver → Prop where
  | stops (env : CallEnv) (channelID msgID : UInt64) : channelOf s.dev channelID = some i →
      msgID.toUInt32 = v → (passThruStopPeriodicMsg env s channelID msgID).code = statusNoerror →
      EndsBy i v s (passThruStopPeriodicMsg env s channelID msgID).drv
  | clears (env : CallEnv) (channelID : UInt64) (input : IoctlIn) (output : IoctlOut) :
      channelOf s.dev channelID = some i →
      (passThruIoctl env s channelID clearPeriodicMsgs input output).code = statusNoerror →
      EndsBy i v s (passThruIoctl env s channelID clearPeriodicMsgs input output).drv
  | disconnects (env : CallEnv) (channelID : UInt64) : channelOf s.dev channelID = some i →
      (passThruDisconnect env s channelID).code = statusNoerror →
      EndsBy i v s (passThruDisconnect env s channelID).drv

/-- Its command ends the message on the cable. -/
theorem EndsBy.wrote {i : Fin 10} {v : UInt32} {s s' : Driver} (h : EndsBy i v s s') :
    ∃ (t : Txn) (a : Ask), s'.dev.log = .txn t :: s.dev.log ∧ a.Done t ∧
      a.command.channel = some i.val ∧ (a.command.verb = 0x63 ∨ a.command.verb = 0x6c ∨
        a.command.verb = 0x6e ∧ a.command.args = [arg v]) := by
  cases h with
  | stops env channelID msgID hi hid hcode =>
      obtain ⟨c, hc⟩ := stopPeriodic_obtained hcode
      obtain ⟨t, a, ha, hlog, ht, -⟩ := hc.done (passThruStopPeriodicMsg_effect env s channelID msgID)
      obtain rfl := List.mem_singleton.mp ha
      have hargs : [printed msgID] = [arg v] := by
        rw [← hid]
        rfl
      exact ⟨t, _, hlog, ht, congrArg some (channelOf_some hi).2, Or.inr (Or.inr ⟨rfl, hargs⟩)⟩
  | clears env channelID input output hi hcode =>
      obtain ⟨c, hc⟩ := clearPeriodic_obtained hcode
      obtain ⟨t, a, ha, hlog, ht, -⟩ := hc.done
        (passThruIoctl_effect env s channelID clearPeriodicMsgs input output)
      obtain rfl : a = ⟨{ verb := 0x6c, channel := some channelID.toNat }, []⟩ :=
        List.mem_singleton.mp ha
      exact ⟨t, _, hlog, ht, congrArg some (channelOf_some hi).2, Or.inr (Or.inl rfl)⟩
  | disconnects env channelID hi hcode =>
      obtain ⟨c, hc⟩ := disconnect_obtained hcode
      obtain ⟨t, a, ha, hlog, ht, -⟩ := hc.done (passThruDisconnect_effect env s channelID)
      obtain rfl := List.mem_singleton.mp ha
      exact ⟨t, _, hlog, ht, congrArg some (channelOf_some hi).2, Or.inl rfl⟩

/-! ## 2. On the cable -/

/-- Such a command is answered `aro` or refused. -/
theorem ended_ok {b b' : Books} {g : Given} {q : WireRecord} (h : Specified b g q b')
    (hverb : g.command.verb = 0x63 ∨ g.command.verb = 0x6c ∨ g.command.verb = 0x6e)
    (hok : q.val.reply.kind ≠ .error) : q.val.reply.kind = .ok := by
  rcases hverb with hv | hv | hv
  · obtain ⟨-, -, rfl, -⟩ := h.does hv
    rfl
  · obtain ⟨-, -, rfl, -⟩ := h.does hv
    rfl
  · rcases h.does hv with ⟨⟨hr, -⟩, -⟩ | ⟨-, -, -, -, -, -, ⟨-, rfl, -⟩ | ⟨-, rfl, -⟩⟩
    · exact absurd hr hok
    · exact absurd rfl hok
    · rfl

/-- **Two transactions, the one that was given a message's id and a later one that ended it.** -/
theorem Rowed.stopped {l0 l : Loop} {txns : List Txn} {hist : History} (h : Rowed l0 l txns hist)
    (hstart : LoopStart l0) (hbound : l.issued.length < numberCount) {newer mid older : List Txn}
    {t u : Txn} (htxns : txns = newer ++ u :: (mid ++ t :: older)) {c c' : Command} {r r' : OpReply}
    (ht : t.Answers c r) (hu : u.Answers c' r') (hkind : r.kind = .periodic) {i : Fin 10}
    (hch : c.channel = some i.val) (hch' : c'.channel = some i.val)
    (hends : c'.verb = 0x63 ∨ c'.verb = 0x6c ∨ c'.verb = 0x6e ∧ c'.args = [arg r.a])
    (hok : replyToStatus r' = statusNoerror) : l.cable.sim.table.Dead (arg r.a) := by
  obtain ⟨todo, hlin⟩ := h.linear
  have htxns' : txns = (newer ++ u :: mid) ++ t :: older := by
    rw [htxns, List.append_assoc]
    rfl
  obtain ⟨p, hp, hid, rfl, rfl⟩ := h.entry htxns' ht
  obtain ⟨q, hq, hid', rfl, rfl⟩ := h.entry htxns hu
  rw [List.length_append, List.length_cons] at hid'
  obtain ⟨pre, row, post, hrow, hlen, -⟩ := hlin.apart hp hq (by omega)
  have hzero : l0.cable.sim.books.nextPeriodicId = 0 := Nat.le_zero.mp hstart.ready.periodicIds
  have hbelow : l0.cable.sim.books.Below := by
    intro j d id hj hid
    obtain ⟨m, hm⟩ := exists_lookup hid
    exact ((hstart.ready.sound.table.channel j d hj).periodic id m hm).2
  have hroom : l0.cable.sim.books.nextPeriodicId + pre.length < 2 ^ 32 := by
    have hfew := h.few
    have hcount : numberCount < 2 ^ 32 := by decide
    simp only [List.length_append, List.length_cons] at hlen
    omega
  have hverb : q.1.2.command.verb = 0x63 ∨ q.1.2.command.verb = 0x6c ∨ q.1.2.command.verb = 0x6e :=
    hends.imp_right fun h => h.imp_right (·.1)
  obtain ⟨b, b1, -, -, hspec, -⟩ := Row.since (P := fun _ => True) (G := fun _ => True) hrow
    (fun _ _ _ _ => trivial) (fun _ _ _ _ _ _ => trivial) fun _ _ => trivial
  have hgone := ended_gone hrow hbelow hroom hkind hch (Or.inr ⟨hch', hends⟩)
    (ended_ok hspec hverb (done_ok hspec hok))
  exact ⟨hgone.given, fun j d hj hin => hgone.only j d hj hin⟩

/-- **A periodic message the application ended is never sent again**: where a start gave out an id,
    and any calls later a stop of that id, a clear or a disconnect of its channel succeeded, no
    thread of the cable sends the message in any further run, whatever calls came between and after,
    and whatever timed out. -/
theorem stack_stopped {e : Setup} (hp : e.Plain) (hinit : e.wire.initReply = .aro)
    (hans : e.Answerable) {s₀ s₁ s₂ s₃ s₄ : Driver} (hfirst : Relation.ReflTransGen Moves s₀ s₁)
    {env : CallEnv} {channelID : UInt64} {i : Fin 10} (hi : channelOf s₁.dev channelID = some i)
    {pMsg : Option PassThruMsg} {pMsgID : Bool} {timeInterval id : UInt64}
    (hstart : (passThruStartPeriodicMsg env s₁ channelID pMsg pMsgID timeInterval).out = some id)
    (hmid : Relation.ReflTransGen Moves
      (passThruStartPeriodicMsg env s₁ channelID pMsg pMsgID timeInterval).drv s₂)
    (hend : EndsBy i id.toUInt32 s₂ s₃) (hlast : Relation.ReflTransGen Moves s₃ s₄) {l0 l : Loop}
    {txns : List Txn} (hj : Joint e s₀.dev s₄.dev l0 l txns) (events : List Simulator.Event) :
    ∀ z ∈ l.cable.sim.sends e events, z.1.pid ≠ (id.toNat : Int) := by
  -- what each of them logged
  obtain ⟨t, a, r, hlogt, ht, hreply, hverb, hch, hkind, rfl⟩ := startPeriodic_wrote hstart
  rw [(channelOf_some hi).2] at hch
  have hlow : r.a.toUInt64.toUInt32 = r.a := UInt32.toUInt32_toUInt64 r.a
  rw [hlow] at hend
  obtain ⟨u, a', hlogu, hu, hch', hends⟩ := hend.wrote
  obtain ⟨before, hbefore⟩ := run_logs hfirst
  obtain ⟨between, hbetween⟩ := run_logs hmid
  obtain ⟨after, hafter⟩ := run_logs hlast
  have hall : txns.map Event.txn =
      after ++ .txn u :: (between ++ .txn t :: before) := by
    refine List.append_cancel_right (hj.asked.symm.trans ?_)
    rw [hafter, hlogu, hbetween, hlogt, hbefore]
    simp only [List.append_assoc, List.cons_append]
  obtain ⟨newer, rest, rfl, -, hrest⟩ := txns_at hall
  obtain ⟨mid, older, rfl, -, -⟩ := txns_at hrest
  -- what the cable made of it
  have hplain : ∀ v : UInt8, v ∈ ([0x6d, 0x63, 0x6c, 0x6e] : List UInt8) →
      v ≠ 0x79 ∧ v ≠ 0x77 ∧ v ≠ 0x69 := by
    intro v hv
    simp only [List.mem_cons, List.not_mem_nil, or_false] at hv
    rcases hv with rfl | rfl | rfl | rfl <;> decide
  obtain ⟨r1, hta, -⟩ := ht.answers (hplain _ (by rw [hverb]; decide))
  obtain rfl : r1 = r := Option.some.inj (hta.reply.symm.trans hreply)
  have hverb' : a'.command.verb ∈ ([0x6d, 0x63, 0x6c, 0x6e] : List UInt8) := by
    rcases hends with h | h | ⟨h, -⟩
    · rw [h]
      decide
    · rw [h]
      decide
    · rw [h]
      decide
  obtain ⟨r', hua, hstatus⟩ := hu.answers (hplain _ hverb')
  obtain ⟨hist, hrow⟩ := hj.rowed hp hinit hans
  obtain ⟨sent, left, hist', todo, hsteps, hl⟩ := loop_linked hp hinit hans hj.start
    (whole_run hj.run hj.uncut) hj.bound
  have hdead := hrow.stopped hj.start hj.bound rfl hta hua hkind hch hch' hends hstatus
  have hid : ((r1.a.toUInt64.toNat : Nat) : Int) = arg r1.a := by
    rw [UInt32.toNat_toUInt64]
    rfl
  rw [hid]
  exact dead_run hl.ready.sound hdead

/-- The message is stopped again: "atn5 0". -/
def stillDriver : Driver := (passThruStopPeriodicMsg (okEnv 302) beatDriver 5 0).drv

def stillCommands : List (Command × Bytes) :=
  beatCommands ++ [({ verb := 0x6e, channel := some 5, args := [0] }, [])]

theorem stillCommands_spoken : ∀ c ∈ stillCommands,
    Spoken c.1 ∧ ∀ seq, c.2.length = (c.1.issued seq).declares := by
  intro c hc
  rcases List.mem_append.mp hc with hc | hc
  · exact beatCommands_spoken c hc
  · obtain rfl := List.mem_singleton.mp hc
    exact ⟨⟨rfl, by decide, by decide, fun _ => ⟨5, rfl⟩, by decide, by decide⟩, fun _ => rfl⟩

/-- Stopped, it is sent by no thread any more. -/
theorem stack_stopped_sample : ∃ l txns, Joint answering stackDriver.dev stillDriver.dev
    sampleLoop l txns ∧ ∀ events : List Simulator.Event,
      ∀ z ∈ l.cable.sim.sends answering events, z.1.pid ≠ ((0 : UInt64).toNat : Int) := by
  obtain ⟨l, hj⟩ := joint_roundTrips (d := stillDriver.dev) stillCommands_spoken
    (by decide +kernel)
  have hopen : channelOf connectedDriver.dev 5 = some 5 := by decide +kernel
  have hstart : beatCall.out = some 0 := by decide +kernel
  have hends : EndsBy 5 (0 : UInt64).toUInt32 beatDriver stillDriver :=
    .stops (okEnv 302) 5 0 (by decide +kernel) rfl (by decide +kernel)
  exact ⟨l, _, hj, stack_stopped answering_plain rfl answering_answers connectedDriver_run
    hopen hstart .refl hends .refl hj⟩

end Openport
