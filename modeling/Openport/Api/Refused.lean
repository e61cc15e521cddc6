/-
  File:      Openport/Api/Refused.lean
  Subject:   An error reply against what an entry point makes of it.

  `reply_to_status` gives the code of an `are` through, and 0 is `STATUS_NOERROR`:
  an `are 0` is a success to everyone who looks at the code alone. The entry points
  that look at the kind of the reply as well are safe from it, and so is a Connect
  that finds no memory.
-/
import Openport.Api.Ending
import Openport.Api.Exclusive

namespace Openport

open Lib.Decimal

/-! ## 1. Replies -/

/-- The reply matched to a transaction is an `are`. -/
def Txn.refused (t : Txn) : Prop := ∃ r, t.reply = some r ∧ r.kind = .error

/-- The reply matched to a transaction is an `are` with code 0. -/
def Txn.refusedZero (t : Txn) : Prop := ∃ r, t.reply = some r ∧ r.kind = .error ∧ r.errorCode = 0

theorem Txn.refusedZero.refused {t : Txn} (h : t.refusedZero) : t.refused := by
  obtain ⟨r, hr, hk, -⟩ := h
  exact ⟨r, hr, hk⟩

/-- **An error reply is taken for a success exactly where its code is 0.** -/
theorem refused_accepted {t : Txn} (h : t.refused) : t.accepted ↔ t.refusedZero := by
  obtain ⟨r, hr, hk⟩ := h
  have hst : replyToStatus r = deviceError r.errorCode := by
    unfold replyToStatus
    rw [if_pos hk]
  constructor
  · rintro ⟨r', hr', hok⟩
    rw [hr] at hr'
    obtain rfl := Option.some.inj hr'
    rw [hst] at hok
    exact ⟨r, hr, hk, deviceError_zero.mp hok⟩
  · rintro ⟨r', hr', -, h0⟩
    rw [hr] at hr'
    obtain rfl := Option.some.inj hr'
    exact ⟨r, hr, hst.trans (deviceError_zero.mpr h0)⟩

/-- **What `simple_cmd` makes of its transaction**: it refuses before anything is written, or runs
    one, hands its reply on, and succeeds exactly where the reply is accepted. -/
theorem simpleCmd_txn (x : Exchange) (d : OpDevice) (line payload : Bytes) (timeoutMs : UInt32) :
    ((simpleCmd x d line payload timeoutMs).2.2.log = d.log ∧
        (simpleCmd x d line payload timeoutMs).1 ≠ statusNoerror) ∨
      ∃ t, (simpleCmd x d line payload timeoutMs).2.2.log = .txn t :: d.log ∧
        (simpleCmd x d line payload timeoutMs).2.1 = t.reply ∧
        ((simpleCmd x d line payload timeoutMs).1 = statusNoerror ↔ t.accepted) := by
  obtain ⟨-, ⟨hlog, hne, -⟩ | ⟨t, ht⟩⟩ := cmdExchange_cases x d line payload timeoutMs true
  · refine Or.inl ⟨?_, simpleCmd_unrun hne⟩
    rw [simpleCmd_dev]
    exact hlog
  · refine Or.inr ⟨t, ?_, ?_, ht.accepted⟩
    · rw [simpleCmd_dev]
      exact ht.log
    · unfold simpleCmd opDeviceCmd
      simp only
      by_cases hok : (cmdExchange x d line payload timeoutMs true).1 = .ok
      · rw [if_neg (not_not_intro hok)]
        exact ht.reply.symm
      · rw [if_pos hok]
        cases hr : t.reply with
        | none => rfl
        | some reply =>
            have hs := (ht.settled.reply.mp (by rw [hr]; rfl)).2
            exact absurd (ht.result.symm.trans hs) hok

/-- What becomes of the command of an entry point. -/
theorem Commanded.txn {x : Exchange} {d : OpDevice} {c : Nat × Option OpReply × OpDevice}
    (h : Commanded x d c) : (c.2.2.log = d.log ∧ c.1 ≠ statusNoerror) ∨
      ∃ t, c.2.2.log = .txn t :: d.log ∧ c.2.1 = t.reply ∧ (c.1 = statusNoerror ↔ t.accepted) := by
  obtain ⟨line, payload, timeoutMs, rfl⟩ := h
  exact simpleCmd_txn x d line payload timeoutMs

/-! ## 2. What a call records -/

/-- Something new is in the driver's books: an open channel, a pin with voltage or on ground, a
    periodic message. -/
def Marks (d d' : OpDevice) : Prop :=
  (∃ i, (d'.ch i).isOpen = true ∧ (d.ch i).isOpen = false) ∨
    d'.pinsPowered ≠ d.pinsPowered ∨ d'.pinsGrounded ≠ d.pinsGrounded ∨
    ∃ i id, id ∈ (d'.ch i).periodic ∧ id ∉ (d.ch i).periodic

/-- What a call that waits for its commands' answers gives back: `recorded k` says that the effect
    of its command `k` is in the driver's books or was given to the caller. -/
structure Answer where
  code : Nat
  drv : Driver
  recorded : Nat → Prop

/-- The answer of a call that gives one command: anything new in the books, anything written through
    the caller's pointers. -/
def Ret.answer {α : Type} (r : Ret α) (d : OpDevice) (blank : Option α → Prop) : Answer :=
  ⟨r.code, r.drv, fun _ => ¬blank r.out ∨ Marks d r.drv.dev⟩

/-- The calls that wait for a device answer, but for `GET_CONFIG` and `SET_CONFIG`. A write records
    message `k` by counting it. -/
def Call.answer (env : CallEnv) (s : Driver) : Call → Option Answer
  | .passThruClose id => some ((Openport.passThruClose env s id).answer s.dev NoOutput)
  | .passThruConnect id protocol flags baud p =>
    some ((Openport.passThruConnect env s id protocol flags baud p).answer s.dev NoOutput)
  | .passThruDisconnect ch => some ((Openport.passThruDisconnect env s ch).answer s.dev NoOutput)
  | .passThruWriteMsgs ch p n timeout =>
    if timeout = 0 then none
    else
      let r := Openport.passThruWriteMsgs env s ch p n timeout
      some ⟨r.code, r.drv, fun k => k < r.out.getD 0⟩
  | .passThruStartPeriodicMsg ch m p interval =>
    some ((Openport.passThruStartPeriodicMsg env s ch m p interval).answer s.dev NoOutput)
  | .passThruStopPeriodicMsg ch id =>
    some ((Openport.passThruStopPeriodicMsg env s ch id).answer s.dev NoOutput)
  | .passThruStartMsgFilter ch type mask pattern flow p =>
    some ((Openport.passThruStartMsgFilter env s ch type mask pattern flow p).answer s.dev NoOutput)
  | .passThruStopMsgFilter ch id =>
    some ((Openport.passThruStopMsgFilter env s ch id).answer s.dev NoOutput)
  | .passThruSetProgrammingVoltage id pin voltage =>
    some ((Openport.passThruSetProgrammingVoltage env s id pin voltage).answer s.dev NoOutput)
  | .passThruIoctl ch id input output =>
    if id ∈ commandIoctls then
      some ((Openport.passThruIoctl env s ch id input output).answer s.dev Untouched)
    else none
  | _ => none

/-- The calls no error reply passes for a success: those that look at the kind of the reply, and a
    Connect without memory for its queue. -/
def Call.guarded (env : CallEnv) (d : OpDevice) : Call → Prop
  | .passThruStartPeriodicMsg .. | .passThruStartMsgFilter .. => True
  | .passThruIoctl _ id _ _ => id ≠ clearPeriodicMsgs ∧ id ≠ clearMsgFilters
  | .passThruConnect _ protocol _ _ _ =>
    ∃ fw, opProtocolChannel protocol = some fw ∧ (d.ch fw).rq = none ∧ env.mem = none
  | _ => False

/-- The commands of a call are answered honestly exactly where `e` holds or none of them got an
    `are` of code 0. -/
def Answered (d : OpDevice) (a : Answer) (e : Prop) : Prop :=
  ∃ txns : List Txn, a.drv.dev.log = (txns.map Event.txn).reverse ++ d.log ∧
    ((∀ k t, txns[k]? = some t → t.refused → a.code ≠ statusNoerror ∧ ¬a.recorded k) ↔
      e ∨ ∀ t ∈ txns, ¬t.refusedZero)

theorem Kept.not_marks {d d' : OpDevice} (h : Kept d d') : ¬Marks d d' := by
  rintro (⟨i, h1, h2⟩ | h1 | h1 | ⟨i, id, h1, h2⟩)
  · rw [h.isOpen, h2] at h1
    cases h1
  · exact h1 h.pinsPowered
  · exact h1 h.pinsGrounded
  · rw [h.periodic] at h1
    exact h2 h1

section OneCommand

variable {d : OpDevice} {a : Answer} {e : Prop}

theorem answered_silent (h : a.drv.dev.log = d.log) : Answered d a e :=
  ⟨[], h, fun _ => Or.inr fun t ht => absurd ht List.not_mem_nil,
    fun _ k t hk => by rw [List.getElem?_nil] at hk; cases hk⟩

/-- A call of one command, by what it makes of an error reply. -/
theorem answered_one {t : Txn} (hlog : a.drv.dev.log = .txn t :: d.log)
    (h : t.refused → (a.code ≠ statusNoerror ∧ ¬a.recorded 0 ↔ e ∨ ¬t.refusedZero)) :
    Answered d a e := by
  refine ⟨[t], hlog, ?_, ?_⟩
  · intro hall
    by_cases hr : t.refused
    · rcases (h hr).mp (hall 0 t rfl hr) with he | hz
      · exact Or.inl he
      · exact Or.inr fun t' ht => by rw [List.mem_singleton.mp ht]; exact hz
    · exact Or.inr fun t' ht hz => hr (by rw [← List.mem_singleton.mp ht]; exact hz.refused)
  · intro he k t' hk hr
    cases k with
    | zero =>
        obtain rfl := Option.some.inj hk
        exact (h hr).mpr (he.imp id fun hz => hz t List.mem_cons_self)
    | succ k => cases hk

/-- A call that succeeds where its command does, and records nothing else. -/
theorem answered_plain {t : Txn} (hlog : a.drv.dev.log = .txn t :: d.log)
    (hcode : a.code = statusNoerror ↔ t.accepted)
    (hrec : a.code ≠ statusNoerror → ¬a.recorded 0) : Answered d a False := by
  refine answered_one hlog ?_
  intro hr
  rw [false_or, ← refused_accepted hr, ← hcode]
  exact ⟨fun h => h.1, fun h => ⟨h, hrec h⟩⟩

/-- A call whose command was not accepted, and that says so. -/
theorem answered_failed {t : Txn} (hlog : a.drv.dev.log = .txn t :: d.log) (hno : ¬t.accepted)
    (hcode : a.code ≠ statusNoerror) (hrec : ¬a.recorded 0) : Answered d a e :=
  answered_one hlog fun hr =>
    ⟨fun _ => Or.inr fun hz => hno ((refused_accepted hr).mpr hz), fun _ => ⟨hcode, hrec⟩⟩

end OneCommand

/-! ## 3. Entry points of one command -/

section Endings

variable {α : Type} {x : Exchange} {d : OpDevice} {ret : Ret α} {blank : Option α → Prop}
  {fits : Option OpReply → Prop} {commit : Option OpReply → OpDevice → OpDevice → Prop}

/-- An entry point that fails leaves what its transaction leaves. -/
theorem Ending.kept (h : Ending x d ret blank fits commit) (hcode : ret.code ≠ statusNoerror) :
    Kept d ret.drv.dev ∧ blank ret.out := by
  cases h with
  | refused _ hdev hblank => exact ⟨by rw [hdev]; exact Kept.refl d, hblank⟩
  | failed c hc _ _ hdev hblank =>
      exact ⟨by rw [hdev]; exact hc.kept, hblank⟩
  | spoilt c hc _ _ _ hdev hblank =>
      exact ⟨by rw [hdev]; exact hc.kept, hblank⟩
  | done c _ _ _ hok _ => exact absurd hok hcode

/-- **One command, one transaction**: the entry point succeeds exactly where its reply is accepted
    and fits. -/
theorem Ending.txn (h : Ending x d ret blank fits commit)
    (hcommit : ∀ reply d d', commit reply d d' → d'.log = d.log) :
    (ret.drv.dev.log = d.log ∧ ret.code ≠ statusNoerror) ∨
      ∃ t, ret.drv.dev.log = .txn t :: d.log ∧
        (ret.code = statusNoerror ↔ t.accepted ∧ fits t.reply) := by
  cases h with
  | refused hcode hdev _ => exact Or.inl ⟨by rw [hdev], hcode⟩
  | failed c hc hbad hcode hdev _ =>
      have hne : ret.code ≠ statusNoerror := by
        rw [hcode]
        exact hbad
      rcases hc.txn with ⟨hlog, -⟩ | ⟨t, hlog, -, hacc⟩
      · exact Or.inl ⟨by rw [hdev, hlog], hne⟩
      · exact Or.inr ⟨t, by rw [hdev, hlog], fun e => absurd e hne,
          fun e => absurd (hacc.mpr e.1) hbad⟩
  | spoilt c hc hgood hno hne hdev _ =>
      rcases hc.txn with ⟨-, hbad⟩ | ⟨t, hlog, hreply, -⟩
      · exact absurd hgood hbad
      · rw [hreply] at hno
        exact Or.inr ⟨t, by rw [hdev, hlog], fun e => absurd e hne, fun e => absurd e.2 hno⟩
  | done c hc hgood hfits hok hdone =>
      rcases hc.txn with ⟨-, hbad⟩ | ⟨t, hlog, hreply, hacc⟩
      · exact absurd hgood hbad
      · rw [hreply] at hfits
        exact Or.inr ⟨t, by rw [hcommit _ _ _ hdone, hlog], fun _ => ⟨hacc.mp hgood, hfits⟩,
          fun _ => hok⟩

/-- A failed call of one command has recorded nothing. -/
theorem Ending.not_recorded (h : Ending x d ret blank fits commit)
    (hcode : ret.code ≠ statusNoerror) : ¬(ret.answer d blank).recorded 0 := by
  obtain ⟨hkept, hblank⟩ := h.kept hcode
  rintro (hno | hmarks)
  · exact hno hblank
  · exact hkept.not_marks hmarks

/-- An entry point that any reply satisfies is honest but for an `are` of code 0. -/
theorem Ending.answered_any (h : Ending x d ret blank AnyReply commit)
    (hcommit : ∀ reply d d', commit reply d d' → d'.log = d.log) :
    Answered d (ret.answer d blank) False := by
  rcases h.txn hcommit with ⟨hlog, -⟩ | ⟨t, hlog, hcode⟩
  · exact answered_silent hlog
  · exact answered_plain hlog ⟨fun e => (hcode.mp e).1, fun e => hcode.mpr ⟨e, trivial⟩⟩
      h.not_recorded

/-- An entry point that no error reply satisfies is honest. -/
theorem Ending.answered_kind (h : Ending x d ret blank fits commit)
    (hcommit : ∀ reply d d', commit reply d d' → d'.log = d.log)
    (hfits : ∀ r, r.kind = .error → ¬fits (some r)) : Answered d (ret.answer d blank) True := by
  rcases h.txn hcommit with ⟨hlog, -⟩ | ⟨t, hlog, hcode⟩
  · exact answered_silent hlog
  · refine answered_one hlog fun hr => ⟨fun _ => Or.inl trivial, fun _ => ?_⟩
    obtain ⟨r, hreply, hk⟩ := hr
    have hne : ret.code ≠ statusNoerror := by
      intro e
      have hf := (hcode.mp e).2
      rw [hreply] at hf
      exact hfits r hk hf
    exact ⟨hne, h.not_recorded hne⟩

end Endings

theorem asLeft_log (reply : Option OpReply) (d d' : OpDevice) (h : AsLeft reply d d') :
    d'.log = d.log := congrArg OpDevice.log h

theorem not_ofKind_error {kind : OpReplyKind} (h : kind ≠ .error) (r : OpReply)
    (hr : r.kind = .error) : ¬OfKind kind (some r) := by
  rintro ⟨r', e, hk⟩
  obtain rfl := Option.some.inj e
  exact h (hk.symm.trans hr)

theorem not_initAnswer_error (r : OpReply) (hr : r.kind = .error) : ¬InitAnswer (some r) := by
  rintro ⟨r', e, hk, -⟩
  obtain rfl := Option.some.inj e
  rw [hr] at hk
  cases hk

/-- The ioctls of one command. -/
theorem ioctl_answered (env : CallEnv) (s : Driver) (channelID : UInt64) {ioctlID : UInt64}
    (input : IoctlIn) (output : IoctlOut) (h : ioctlID ∈ commandIoctls) :
    Answered s.dev ((passThruIoctl env s channelID ioctlID input output).answer s.dev Untouched)
      (ioctlID ≠ clearPeriodicMsgs ∧ ioctlID ≠ clearMsgFilters) := by
  have hend := passThruIoctl_ending env s channelID input output h
  have hcommit : ∀ reply d d', ioctlCommit channelID ioctlID reply d d' → d'.log = d.log := by
    intro reply d d' hc
    unfold ioctlCommit at hc
    split at hc
    · obtain ⟨i, -, rfl⟩ := hc
      rfl
    · exact asLeft_log reply d d' hc
  unfold commandIoctls channelCommandIoctls at h
  simp only [List.mem_cons, List.not_mem_nil, or_false] at h
  rcases h with rfl | rfl | rfl | rfl | rfl | rfl
  · rw [eq_true (by decide : readVbatt ≠ clearPeriodicMsgs ∧ readVbatt ≠ clearMsgFilters)]
    exact hend.answered_kind hcommit (not_ofKind_error (by decide))
  · rw [eq_true (by decide :
      readProgVoltage ≠ clearPeriodicMsgs ∧ readProgVoltage ≠ clearMsgFilters)]
    exact hend.answered_kind hcommit (not_ofKind_error (by decide))
  · rw [eq_true (by decide : fiveBaudInit ≠ clearPeriodicMsgs ∧ fiveBaudInit ≠ clearMsgFilters)]
    exact hend.answered_kind hcommit not_initAnswer_error
  · rw [eq_true (by decide : fastInit ≠ clearPeriodicMsgs ∧ fastInit ≠ clearMsgFilters)]
    exact hend.answered_kind hcommit not_initAnswer_error
  · rw [eq_false (by decide :
      ¬(clearPeriodicMsgs ≠ clearPeriodicMsgs ∧ clearPeriodicMsgs ≠ clearMsgFilters))]
    exact hend.answered_any hcommit
  · rw [eq_false (by decide :
      ¬(clearMsgFilters ≠ clearPeriodicMsgs ∧ clearMsgFilters ≠ clearMsgFilters))]
    exact hend.answered_any hcommit

/-! ## 4. Entry points that change their books all the same -/

/-- A call that takes something out of the books, and passes the code of its command on. -/
theorem answered_taking {α : Type} {x : Exchange} {d : OpDevice} {ret : Ret α}
    {c : Nat × Option OpReply × OpDevice} (hc : Commanded x d c) (hcode : ret.code = c.1)
    (hlog : ret.drv.dev.log = c.2.2.log) (hout : ret.out = none) (hmarks : ¬Marks d ret.drv.dev) :
    Answered d (ret.answer d NoOutput) False := by
  have hrec : ¬(ret.answer d NoOutput).recorded 0 := by
    rintro (hno | hm)
    · exact hno hout
    · exact hmarks hm
  rcases hc.txn with ⟨h, -⟩ | ⟨t, h, -, hacc⟩
  · exact answered_silent (hlog.trans h)
  · refine answered_plain (hlog.trans h) ?_ fun _ => hrec
    rw [← hacc]
    exact ⟨fun e => hcode.symm.trans e, fun e => hcode.trans e⟩

/-- A call that refuses before its command. -/
theorem answered_fail {α : Type} {s : Driver} {code : Nat} {what : String} {blank : Option α → Prop}
    {e : Prop} : Answered s.dev ((s.errClear.fail code what : Ret α).answer s.dev blank) e := by
  refine answered_silent ?_
  show (s.errClear.fail code what : Ret α).drv.dev.log = _
  rw [Driver.fail_dev]
  rfl

theorem close_answered (env : CallEnv) (s : Driver) (deviceID : UInt64) :
    Answered s.dev ((passThruClose env s deviceID).answer s.dev NoOutput) False := by
  unfold passThruClose
  simp only
  split
  · exact answered_fail
  · have hc : Commanded (env.exchange 0) s.dev
        (simpleCmd (env.exchange 0) s.errClear.dev opCmdReset [] opDefaultCmdMs) := ⟨_, _, _, rfl⟩
    obtain ⟨hline, hlog⟩ := opDeviceClose_noNewLine
      (simpleCmd (env.exchange 0) s.errClear.dev opCmdReset [] opDefaultCmdMs).2.2
    refine answered_taking hc rfl ?_ rfl ?_
    · rw [Driver.failed_dev]
      exact hlog
    · rw [Driver.failed_dev]
      have hch : (opDeviceClose (simpleCmd (env.exchange 0) s.errClear.dev opCmdReset []
          opDefaultCmdMs).2.2).ch = (simpleCmd (env.exchange 0) s.errClear.dev opCmdReset []
          opDefaultCmdMs).2.2.ch := by
        unfold opDeviceClose
        split <;> rfl
      rintro (⟨i, h1, h2⟩ | h1 | h1 | ⟨i, id, h1, h2⟩)
      · rw [((hc.kept.noNewLine.trans hline).held i h1).1] at h2
        cases h2
      · exact h1 (hline.pinsPowered.trans hc.kept.pinsPowered)
      · exact h1 (hline.pinsGrounded.trans hc.kept.pinsGrounded)
      · rw [hch, hc.kept.periodic] at h1
        exact h2 h1

/-- Replacing a channel by one that is open only if it was, with no more periodic messages, marks
    nothing. -/
theorem not_marks_setCh {d d' : OpDevice} (h : Kept d d') {i : Fin 10} {c : OpChannel}
    (ho : c.isOpen = true → (d.ch i).isOpen = true)
    (hp : ∀ id ∈ c.periodic, id ∈ (d.ch i).periodic) : ¬Marks d (d'.setCh i c) := by
  rintro (⟨j, h1, h2⟩ | h1 | h1 | ⟨j, id, h1, h2⟩)
  · by_cases e : j = i
    · subst e
      rw [OpDevice.setCh_same] at h1
      rw [ho h1] at h2
      cases h2
    · rw [OpDevice.setCh_other d' c e, h.isOpen, h2] at h1
      cases h1
  · exact h1 h.pinsPowered
  · exact h1 h.pinsGrounded
  · by_cases e : j = i
    · subst e
      rw [OpDevice.setCh_same] at h1
      exact h2 (hp id h1)
    · rw [OpDevice.setCh_other d' c e, h.periodic] at h1
      exact h2 h1

theorem disconnect_answered (env : CallEnv) (s : Driver) (channelID : UInt64) :
    Answered s.dev ((passThruDisconnect env s channelID).answer s.dev NoOutput) False := by
  unfold passThruDisconnect
  simp only
  split
  · exact answered_fail
  split
  · exact answered_fail
  · rename_i i hi
    have hc : Commanded (env.exchange 0) s.dev (simpleCmd (env.exchange 0) s.errClear.dev
        (opCmdClose i.val) [] opDefaultCmdMs) := ⟨_, _, _, rfl⟩
    refine answered_taking hc rfl ?_ rfl ?_
    · rw [Driver.failed_dev]
      rfl
    · rw [Driver.failed_dev]
      exact not_marks_setCh hc.kept (fun e => (nomatch e)) fun id hid => (nomatch hid)

/-- What `periodic_stop` keeps was there. -/
theorem mem_periodicDrop {ids : List UInt32} {slot : Nat} {id : UInt32} (hne : ids ≠ [])
    (h : id ∈ periodicDrop ids slot) : id ∈ ids := by
  rcases List.mem_or_eq_of_mem_set (List.mem_of_mem_dropLast h) with h | rfl
  · exact h
  · rw [List.getLastD_eq_getLast?, List.getLast?_eq_some_getLast hne, Option.getD_some]
    exact List.getLast_mem hne

theorem stopPeriodic_answered (env : CallEnv) (s : Driver) (channelID msgID : UInt64) :
    Answered s.dev ((passThruStopPeriodicMsg env s channelID msgID).answer s.dev NoOutput)
      False := by
  unfold passThruStopPeriodicMsg
  simp only
  split
  · exact answered_fail
  split
  · exact answered_fail
  rename_i i hi
  split
  · exact answered_fail
  rename_i hslot
  have hne : (s.dev.ch i).periodic ≠ [] := by
    intro e
    exact hslot (by rw [show (s.errClear.dev.ch i).periodic = [] from e]; rfl)
  unfold periodicStop
  simp only
  generalize hr : simpleCmd (env.exchange 0) s.errClear.dev (opCmdPeriodicStop i.val _) []
    opDefaultCmdMs = c
  have hc : Commanded (env.exchange 0) s.dev c := ⟨_, _, _, hr.symm⟩
  split
  · refine answered_taking hc rfl ?_ rfl ?_
    · rw [Driver.failed_dev]
      rfl
    · rw [Driver.failed_dev]
      refine not_marks_setCh hc.kept (?_) ?_
      · intro e
        rw [← hc.kept.isOpen]
        exact e
      · intro id hid
        have hid' : id ∈ periodicDrop (c.2.2.ch i).periodic
            ((s.errClear.dev.ch i).periodic.findIdx (· == msgID.toUInt32)) := hid
        rw [hc.kept.periodic] at hid'
        exact mem_periodicDrop hne hid'
  · refine answered_taking hc rfl ?_ rfl ?_
    · rw [Driver.failed_dev]
    · rw [Driver.failed_dev]
      exact hc.kept.not_marks

/-! ## 5. A connect -/

/-- What is left alone adds no mark. -/
theorem Marks.before {d d' d'' : OpDevice} (h : Kept d' d'') (hm : Marks d d'') : Marks d d' := by
  rcases hm with ⟨i, h1, h2⟩ | h1 | h1 | ⟨i, id, h1, h2⟩
  · exact Or.inl ⟨i, (h.isOpen i).symm.trans h1, h2⟩
  · exact Or.inr (Or.inl (h.pinsPowered ▸ h1))
  · exact Or.inr (Or.inr (Or.inl (h.pinsGrounded ▸ h1)))
  · exact Or.inr (Or.inr (Or.inr ⟨i, id, h.periodic i ▸ h1, h2⟩))

/-- A call that fails and records nothing is honest about every command. -/
theorem answered_honest {d : OpDevice} {a : Answer} {e : Prop} (he : e) (txns : List Txn)
    (hlog : a.drv.dev.log = (txns.map Event.txn).reverse ++ d.log) (hcode : a.code ≠ statusNoerror)
    (hrec : ∀ k, ¬a.recorded k) : Answered d a e :=
  ⟨txns, hlog, fun _ => Or.inl he, fun _ k _ _ _ => ⟨hcode, hrec k⟩⟩

theorem connectOn_answered (env : CallEnv) (s : Driver) {fw : Fin 10}
    {protocolID flags baudRate : UInt64} (hfw : opProtocolChannel protocolID = some fw)
    (hclosed : (s.dev.ch fw).isOpen = false) :
    Answered s.dev ((connectOn env s.errClear fw protocolID flags baudRate).answer s.dev NoOutput)
      (∃ fw', opProtocolChannel protocolID = some fw' ∧ (s.dev.ch fw').rq = none ∧
        env.mem = none) := by
  unfold connectOn
  simp only
  split
  · exact answered_fail
  generalize hr : simpleCmd (env.exchange 0) s.errClear.dev
    (opCmdOpen fw.val flags.toUInt32 baudRate.toUInt32) [] opDefaultCmdMs = c
  have hc : Commanded (env.exchange 0) s.dev c := ⟨_, _, _, hr.symm⟩
  have hsame := hc.shut hclosed
  split
  · rename_i hbad
    have hdev : (Driver.fail { s.errClear with dev := c.2.2 } c.1 "PassThruConnect" :
        Ret UInt64).drv.dev = c.2.2 := Driver.fail_dev _ _ _
    rcases hc.txn with ⟨h, -⟩ | ⟨t, h, -, hacc⟩
    · exact answered_silent ((congrArg OpDevice.log hdev).trans h)
    · refine answered_failed ((congrArg OpDevice.log hdev).trans h) (fun ha => hbad (hacc.mpr ha))
        hbad ?_
      rintro (hx | hm)
      · exact hx rfl
      · exact hc.kept.not_marks (hdev ▸ hm)
  rename_i hgood
  obtain ⟨t, hlog, -, hacc⟩ := hc.txn.resolve_left fun h => h.2 (Decidable.not_not.mp hgood)
  unfold opDeviceOpenChannel
  simp only
  cases hm : (c.2.2.ch fw).rq <|> env.mem with
  | none =>
      have hnone : openChannel (c.2.2.ch fw) env.mem protocolID.toUInt32 = {} := by
        unfold openChannel
        rw [hm]
      rw [hnone, if_pos (by decide)]
      have he : ∃ fw', opProtocolChannel protocolID = some fw' ∧ (s.dev.ch fw').rq = none ∧
          env.mem = none := by
        rw [hsame] at hm
        cases hq : (s.dev.ch fw).rq with
        | some mem =>
            rw [hq] at hm
            cases hm
        | none =>
            rw [hq] at hm
            exact ⟨fw, hfw, hq, hm⟩
      generalize hr' : simpleCmd (env.exchange 1) (c.2.2.setCh fw {}) (opCmdClose fw.val) []
        opDefaultCmdMs = c'
      have hc' : Commanded (env.exchange 1) (c.2.2.setCh fw {}) c' := ⟨_, _, _, hr'.symm⟩
      have hempty : ¬Marks s.dev (c.2.2.setCh fw {}) :=
        not_marks_setCh hc.kept (fun e => (nomatch e)) fun id hid => (nomatch hid)
      have hrec : ¬Marks s.dev c'.2.2 := fun hmk => hempty (hmk.before hc'.kept)
      have hbooks : ∀ k, ¬(Ret.answer (Driver.failText { s.errClear with dev := c'.2.2 } errFailed
          "PassThruConnect: no memory for the receive queue" : Ret UInt64) s.dev
            NoOutput).recorded k := by
        rintro k (hx | hmk)
        · exact hx rfl
        · exact hrec hmk
      rcases hc'.txn with ⟨h, -⟩ | ⟨t', h, -, -⟩
      · exact answered_honest he [t] (h.trans hlog) errFailed_ne hbooks
      · refine answered_honest he [t, t'] (h.trans ?_) errFailed_ne hbooks
        rw [OpDevice.setCh_log, hlog]
        rfl
  | some m =>
      have hsome : openChannel (c.2.2.ch fw) env.mem protocolID.toUInt32 =
          { rq := some m, isOpen := true, protocol := protocolID.toUInt32 } := by
        unfold openChannel
        rw [hm]
      rw [hsome, if_neg (by simp)]
      have he : ¬∃ fw', opProtocolChannel protocolID = some fw' ∧ (s.dev.ch fw').rq = none ∧
          env.mem = none := by
        rintro ⟨fw', h1, h2, h3⟩
        rw [hfw] at h1
        obtain rfl := Option.some.inj h1
        rw [hsame, h2, h3] at hm
        cases hm
      rw [eq_false he]
      exact answered_plain hlog ⟨fun _ => hacc.mp (Decidable.not_not.mp hgood), fun _ => rfl⟩
        fun hx => absurd rfl hx

theorem connect_answered (env : CallEnv) (s : Driver) (deviceID protocolID flags baudRate : UInt64)
    (pChannelID : Bool) :
    Answered s.dev
      ((passThruConnect env s deviceID protocolID flags baudRate pChannelID).answer s.dev NoOutput)
      (∃ fw, opProtocolChannel protocolID = some fw ∧ (s.dev.ch fw).rq = none ∧
        env.mem = none) := by
  unfold passThruConnect
  simp only
  split
  · exact answered_fail
  split
  · exact answered_fail
  cases hfw : opProtocolChannel protocolID with
  | none => exact answered_fail
  | some fw =>
      simp only
      split
      · exact answered_fail
      rename_i hclosed
      split
      · exact answered_silent rfl
      split
      · exact answered_fail
      split
      · exact answered_silent rfl
      · have h : Answered s.dev
            ((connectOn env s.errClear fw protocolID flags baudRate).answer s.dev NoOutput) _ :=
          connectOn_answered env s hfw (Bool.eq_false_iff.mpr hclosed)
        rw [hfw] at h
        exact h

/-! ## 6. A write -/

/-- A transaction nobody waited for has no reply. -/
theorem unwaited_not_refused {t : Txn} (hs : t.Settled) (hw : t.waited = false) : ¬t.refused := by
  rintro ⟨r, hr, -⟩
  have hsome := (hs.reply.mp (by rw [hr]; rfl)).1
  rw [hw] at hsome
  cases hsome

/-- What `write_one` makes of an error reply: it counts the message only where the code is 0. -/
theorem writeOne_txn (x : Exchange) (s : Driver) (i : Fin 10) (m : PassThruMsg)
    (timeoutMs : UInt32) :
    ((writeOne x s i m timeoutMs).drv.dev.log = s.dev.log ∧
        (writeOne x s i m timeoutMs).code ≠ statusNoerror) ∨
      ∃ t, (writeOne x s i m timeoutMs).drv.dev.log = .txn t :: s.dev.log ∧
        (t.refused → ((writeOne x s i m timeoutMs).code = statusNoerror ↔ t.refusedZero)) := by
  unfold writeOne
  simp only
  split
  · rename_i hbad
    exact Or.inl ⟨by rw [msgOk_dev], hbad⟩
  split
  · exact Or.inl ⟨rfl, fun e => (nomatch e)⟩
  split
  · unfold opDeviceSendNowait
    simp only
    obtain ⟨-, ⟨hlog, hne, -⟩ | ⟨t, ht⟩⟩ := cmdExchange_cases x s.dev
      (opCmdTransmit i.val m.dataSize.toNat m.txFlags.toUInt32 (budgetUs s.dev i timeoutMs))
      m.payload 1000 false
    · exact Or.inl ⟨hlog, fun e => hne (opStatusToJ2534_eq_zero.mp e)⟩
    · exact Or.inr ⟨t, ht.log, fun hr => absurd hr (unwaited_not_refused ht.settled ht.waited)⟩
  · rcases simpleCmd_txn x s.dev
      (opCmdTransmit i.val m.dataSize.toNat m.txFlags.toUInt32 (budgetUs s.dev i timeoutMs))
      m.payload timeoutMs with ⟨hlog, hbad⟩ | ⟨t, hlog, -, hacc⟩
    · exact Or.inl ⟨hlog, hbad⟩
    · exact Or.inr ⟨t, hlog, fun hr => hacc.trans (refused_accepted hr)⟩

/-- What a write that had `sent` messages done gives back: transaction `k` of it is message
    `sent + k`, and an error reply is counted where its code is 0 and ends the write where not. -/
structure Tallied (d : OpDevice) (sent : Nat) (r : Ret Nat) (txns : List Txn) : Prop where
  log : r.drv.dev.log = (txns.map Event.txn).reverse ++ d.log
  count : sent ≤ r.out.getD 0
  refused : ∀ k t, txns[k]? = some t → t.refused →
    (t.refusedZero ∧ sent + k < r.out.getD 0) ∨
      (¬t.refusedZero ∧ r.code ≠ statusNoerror ∧ r.out.getD 0 ≤ sent + k)

/-- **The loop counts a message answered by an error only where the error's code is 0.** -/
theorem writeLoop_tallied (env : CallEnv) (i : Fin 10) (msgs : Nat → PassThruMsg)
    (want timeout : UInt64) (fuel : Nat) : ∀ (sent : Nat) (s : Driver),
    ∃ txns, Tallied s.dev sent (writeLoop env i msgs want timeout fuel sent s) txns := by
  induction fuel with
  | zero =>
      exact fun sent s => ⟨[], rfl, Nat.le_refl _, fun k t hk => by
        rw [List.getElem?_nil] at hk
        cases hk⟩
  | succ fuel ih =>
      intro sent s
      have hnone : ∀ {r : Ret Nat} {k : Nat} {t : Txn}, ([] : List Txn)[k]? = some t → t.refused →
          (t.refusedZero ∧ sent + k < r.out.getD 0) ∨
            (¬t.refusedZero ∧ r.code ≠ statusNoerror ∧ r.out.getD 0 ≤ sent + k) := by
        intro r k t hk
        rw [List.getElem?_nil] at hk
        cases hk
      unfold writeLoop
      simp only
      split
      · exact ⟨[], rfl, Nat.le_refl _, fun k t hk hr => hnone hk hr⟩
      generalize hw : writeOne (env.exchange sent) s i (msgs sent)
        (writeWait timeout (elapsedMs (env.clock 0) (env.clock (sent + 1)))) = w
      have htxn := writeOne_txn (env.exchange sent) s i (msgs sent)
        (writeWait timeout (elapsedMs (env.clock 0) (env.clock (sent + 1))))
      rw [hw] at htxn
      split
      · -- this message failed: the write ends here, and it is not counted
        rename_i hbad
        have hdev : ((w.drv.fail w.code "PassThruWriteMsgs" : Ret Nat).writing sent).drv.dev.log =
            w.drv.dev.log := by
          rw [Ret.writing_drv, Driver.fail_dev]
        rcases htxn with ⟨hlog, -⟩ | ⟨t, hlog, hzero⟩
        · exact ⟨[], hdev.trans hlog, Nat.le_refl _, fun k t hk hr => hnone hk hr⟩
        · refine ⟨[t], hdev.trans hlog, Nat.le_refl _, ?_⟩
          intro k t' hk hr
          cases k with
          | succ k => cases hk
          | zero =>
              obtain rfl := Option.some.inj hk
              exact Or.inr ⟨fun hz => hbad ((hzero hr).mpr hz), hbad, Nat.le_refl _⟩
      · rename_i hgood
        have hgood := Decidable.not_not.mp hgood
        obtain ⟨t, hlog, hzero⟩ := htxn.resolve_left fun h => h.2 hgood
        obtain ⟨txns, hrest⟩ := ih (sent + 1) w.drv
        refine ⟨t :: txns, ?_, Nat.le_of_succ_le hrest.count, ?_⟩
        · rw [hrest.log, hlog, List.map_cons, List.reverse_cons, List.append_assoc]
          rfl
        · intro k t' hk hr
          cases k with
          | zero =>
              obtain rfl := Option.some.inj hk
              exact Or.inl ⟨(hzero hr).mp hgood, hrest.count⟩
          | succ k =>
              have hstep := hrest.refused k t' hk hr
              rw [Nat.add_right_comm] at hstep
              exact hstep

theorem write_answered (env : CallEnv) (s : Driver) (channelID : UInt64)
    (pMsg : Option (Nat → PassThruMsg)) (pNumMsgs : Option UInt64) (timeout : UInt64) :
    Answered s.dev ⟨(passThruWriteMsgs env s channelID pMsg pNumMsgs timeout).code,
      (passThruWriteMsgs env s channelID pMsg pNumMsgs timeout).drv,
      fun k => k < (passThruWriteMsgs env s channelID pMsg pNumMsgs timeout).out.getD 0⟩ False := by
  generalize hw : passThruWriteMsgs env s channelID pMsg pNumMsgs timeout = r
  have hfail : ∀ (code : Nat) (what : String),
      (s.errClear.fail code what : Ret Nat).drv.dev.log = s.dev.log := fun code what => by
    rw [Driver.fail_dev]
    rfl
  have htallied : r.drv.dev.log = s.dev.log ∨ ∃ txns, Tallied s.dev 0 r txns := by
    rw [← hw]
    unfold passThruWriteMsgs
    simp only
    split
    · exact Or.inl (hfail _ _)
    split
    · exact Or.inl (hfail _ _)
    split
    · exact Or.inl (hfail _ _)
    split
    · exact Or.inl (hfail _ _)
    · exact Or.inr (writeLoop_tallied env _ _ _ timeout _ 0 s.errClear)
  rcases htallied with h | ⟨txns, h⟩
  · exact answered_silent h
  · refine ⟨txns, h.log, fun hall => Or.inr fun t ht hz => ?_, fun he k t hk hr => ?_⟩
    · obtain ⟨k, hk⟩ := List.mem_iff_getElem?.mp ht
      obtain ⟨-, hrec⟩ := hall k t hk hz.refused
      rcases h.refused k t hk hz.refused with ⟨-, hc⟩ | ⟨hno, -, -⟩
      · rw [Nat.zero_add] at hc
        exact hrec hc
      · exact hno hz
    · have hz : ¬t.refusedZero := he.resolve_left id t (List.mem_of_getElem? hk)
      rcases h.refused k t hk hr with ⟨hzero, -⟩ | ⟨-, hcode, hc⟩
      · exact absurd hzero hz
      · rw [Nat.zero_add] at hc
        exact ⟨hcode, Nat.not_lt.mpr hc⟩

/-! ## 7. Every call -/

/-- **An error reply is reported as one exactly where its code is not 0**, or where the call looks
    at the kind of the reply, or a Connect finds no memory: for every call that waits for its
    commands' answers. -/
theorem refused_reported {c : Call} {env : CallEnv} {s : Driver} {a : Answer}
    (h : c.answer env s = some a) : ∃ txns : List Txn,
      a.drv.dev.log = (txns.map Event.txn).reverse ++ s.dev.log ∧
      ((∀ k t, txns[k]? = some t → t.refused → a.code ≠ statusNoerror ∧ ¬a.recorded k) ↔
        c.guarded env s.dev ∨ ∀ t ∈ txns, ¬t.refusedZero) := by
  show Answered s.dev a (c.guarded env s.dev)
  cases c with
  | passThruClose id =>
      obtain rfl := Option.some.inj h
      exact close_answered env s id
  | passThruConnect id protocol flags baud p =>
      obtain rfl := Option.some.inj h
      exact connect_answered env s id protocol flags baud p
  | passThruDisconnect ch =>
      obtain rfl := Option.some.inj h
      exact disconnect_answered env s ch
  | passThruWriteMsgs ch p n timeout =>
      unfold Call.answer at h
      simp only at h
      split at h
      · cases h
      · obtain rfl := Option.some.inj h
        exact write_answered env s ch p n timeout
  | passThruStartPeriodicMsg ch m p interval =>
      obtain rfl := Option.some.inj h
      exact (passThruStartPeriodicMsg_ending env s ch m p interval).answered_kind
        (fun _ _ _ hx => by obtain ⟨i, r, -, -, -, rfl⟩ := hx; rfl) (not_ofKind_error (by decide))
  | passThruStopPeriodicMsg ch id =>
      obtain rfl := Option.some.inj h
      exact stopPeriodic_answered env s ch id
  | passThruStartMsgFilter ch type mask pattern flow p =>
      obtain rfl := Option.some.inj h
      exact (passThruStartMsgFilter_ending env s ch type mask pattern flow p).answered_kind
        asLeft_log (not_ofKind_error (by decide))
  | passThruStopMsgFilter ch id =>
      obtain rfl := Option.some.inj h
      exact (passThruStopMsgFilter_ending env s ch id).answered_any asLeft_log
  | passThruSetProgrammingVoltage id pin voltage =>
      obtain rfl := Option.some.inj h
      exact (passThruSetProgrammingVoltage_ending env s id pin voltage).answered_any
        fun _ d d' hx => (congrArg OpDevice.log hx).trans (pinsAfter_log d pin voltage)
  | passThruIoctl ch id input output =>
      unfold Call.answer at h
      simp only at h
      split at h
      · rename_i hid
        obtain rfl := Option.some.inj h
        exact ioctl_answered env s ch input output hid
      · cases h
  | passThruOpen p => cases h
  | passThruReadMsgs ch p n timeout => cases h
  | passThruReadVersion id p1 p2 p3 => cases h
  | passThruGetLastError p => cases h

/-- A call whose command is answered `are <code>` under this number. -/
def areEnv (code seq : Nat) : CallEnv :=
  { exchange := fun _ =>
      answeredBy (ascii "are " ++ decimal code ++ (0x20 :: decimal seq) ++ [0x0d, 0x0a]) }

/-- 12 V on pin 12, refused with `are 5`. -/
theorem refused_reported_voltage : ∃ txns : List Txn,
    (passThruSetProgrammingVoltage (areEnv 5 258) openedDriver 1 12 12000).drv.dev.log =
      (txns.map Event.txn).reverse ++ openedDriver.dev.log ∧
    ((∀ k t, txns[k]? = some t → t.refused →
        (passThruSetProgrammingVoltage (areEnv 5 258) openedDriver 1 12 12000).code ≠
          statusNoerror ∧
        ¬((passThruSetProgrammingVoltage (areEnv 5 258) openedDriver 1 12 12000).answer
          openedDriver.dev NoOutput).recorded k) ↔ False ∨ ∀ t ∈ txns, ¬t.refusedZero) := by
  have h : (Call.passThruSetProgrammingVoltage 1 12 12000).answer (areEnv 5 258) openedDriver =
      some ((passThruSetProgrammingVoltage (areEnv 5 258) openedDriver 1 12 12000).answer
        openedDriver.dev NoOutput) := rfl
  exact refused_reported h

/-- What is written to power pin 12, and the reply to it. -/
def zeroTxn : Txn :=
  { line := ascii "atv 12 12000 258\r\n", payload := [], seq := 258, waited := true,
    timeoutMs := 1000
    written := .ok, result := .ok
    reply := some { kind := .error, errorCode := 0, tail := [258] } }

/-- **`are 0` is reported as a success**: the pin is entered as powered. -/
theorem refused_with_zero : ¬∀ (c : Call) (env : CallEnv) (s : Driver) (a : Answer),
    c.answer env s = some a → ∀ txns : List Txn,
    a.drv.dev.log = (txns.map Event.txn).reverse ++ s.dev.log →
    ∀ k t, txns[k]? = some t → t.refused → a.code ≠ statusNoerror ∧ ¬a.recorded k := by
  intro hall
  have hlog : (passThruSetProgrammingVoltage (areEnv 0 258) openedDriver 1 12 12000).drv.dev.log =
      [Event.txn zeroTxn] ++ openedDriver.dev.log := by decide
  obtain ⟨hcode, -⟩ := hall (.passThruSetProgrammingVoltage 1 12 12000)
    (areEnv 0 258) openedDriver _
    rfl [zeroTxn] hlog 0 zeroTxn rfl ⟨_, rfl, rfl⟩
  exact hcode (by decide)

end Openport
