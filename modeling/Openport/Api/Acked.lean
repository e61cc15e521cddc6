/-
  File:      Openport/Api/Acked.lean
  Subject:   What `PassThruWriteMsgs` with a Timeout counts: the messages that were
             acknowledged.

  The wait of a message is what is left of the Timeout, a `long`, narrowed to
  `unsigned`. Where that leaves 0 of a positive number, a multiple of 2 ^ 32, the
  message is sent without waiting and counted. A wait may also end with a reply
  that counts as an acknowledgement and is none: "are 0", or a line that does not
  end with the transmit's number though the numbers `op_parse` kept of it do.
  Nowhere else does a message count that was not acknowledged
  (`writeMsgs_counts_acked`).
-/
import Openport.Api.Ledger
import Openport.Device.Lines

namespace Openport

open Lib.Decimal

/-! ## 1. The numbers of a session -/

/-- `Moves`, where the clock of an opening is not before its epoch. -/
inductive TimedMoves : Driver → Driver → Prop where
  | call (s s' : Driver) (c : Call) (fuel : Nat) (env : CallEnv) (code : Nat) :
      c.run fuel env s = some (code, s') → 0 ≤ env.opening.clock.sec → 0 ≤ env.opening.clock.usec →
      TimedMoves s s'
  | arrive (s : Driver) (a : Arrival) : TimedMoves s { s with dev := arrive s.dev a }

theorem pinsAfter_session (d : OpDevice) (pin voltage : UInt64) :
    (pinsAfter d pin voltage).opened = d.opened ∧ (pinsAfter d pin voltage).seqNext =
      d.seqNext := by
  unfold pinsAfter
  simp only
  repeat' split
  all_goals exact ⟨rfl, rfl⟩

/-- **An open session's next number is never a short one.** -/
theorem timed_numbers {s : Driver} (h : Relation.ReflTransGen TimedMoves {} s) :
    s.dev.opened = true → 256 ≤ s.dev.seqNext.toNat := by
  induction h with
  | refl => exact fun h => (nomatch h)
  | @tail s s' _ hm ih =>
      have hgo : ∀ {d' : OpDevice}, NoNewLine s.dev d' → d'.opened = true →
        256 ≤ d'.seqNext.toNat :=
        fun hn ho => hn.numbers (ih (hn.opened ho))
      cases hm with
      | arrive a => exact hgo (arrive_steady s.dev a).kept.noNewLine
      | call _ c fuel env code hrun hs hu =>
          have ho := call_outcome hrun
          generalize s'.dev = d' at ho ⊢
          cases ho with
          | refuses _ _ hn _ => exact hgo hn
          | keeps _ _ _ heff => exact hgo heff.lines
          | opens p _ heff => exact fun _ => heff.lines.numbers (firstNumber_ge hs hu)
          | connects id protocolID flags baud p fw d c hf heff hc =>
              exact fun ho => heff.lines.numbers (ih (heff.lines.opened ho))
          | fails id pin voltage _ t hf hk hlog hsent hst hacc => exact hgo hk.noNewLine
          | sets id pin voltage d t hf hk hlog hsent hst hacc =>
              obtain ⟨eo, en⟩ := pinsAfter_session d pin voltage
              rw [eo, en]
              exact hgo hk.noNewLine

/-! ## 2. One message -/

/-- The transaction is the transmit of this message. -/
def Transmits (i : Fin 10) (m : PassThruMsg) (t : Txn) : Prop :=
  ∃ budget, (askTransmit printed i.val m budget).Sent t

/-- The transaction was written and waited for, and among the lines of its wait is one that
    acknowledges it. -/
structure Acked (lines : List Line) (t : Txn) : Prop where
  written : t.written = .ok
  waited : t.waited = true
  result : t.result = .ok
  answer : ∃ l ∈ lines, l.Acknowledges t.seq

/-- A message that passes its checks is neither empty nor too long. -/
theorem msgOk_size {s : Driver} {i : Fin 10} {m : PassThruMsg}
    (h : (msgOk s i m).code = statusNoerror) :
    1 ≤ m.dataSize.toNat ∧ m.dataSize.toNat ≤ opMsgMax := by
  have hmax : j2534MsgDataMax = 4128 := rfl
  have hop : opMsgMax = 4128 := rfl
  have hrange : ∀ proto flags : UInt64, 1 ≤ (sizeRange proto flags).1 ∧ (sizeRange proto flags).2 ≤
    opMsgMax := by
    intro proto flags
    unfold sizeRange
    split
    · exact ⟨by omega, by omega⟩
    split
    · split <;> exact ⟨by omega, by omega⟩
    · exact ⟨by omega, by omega⟩
  unfold msgOk at h
  simp only at h
  split at h
  · rw [Driver.failText_code] at h
    exact absurd h (by decide)
  split at h
  · rw [Driver.failText_code] at h
    exact absurd h (by decide)
  · rename_i hsize
    have := hrange (s.dev.ch i).base m.txFlags
    omega

/-- Its line fits. -/
theorem opCmdTransmit_line (i : Fin 10) {n : Nat} (h1 : 1 ≤ n) (hn : n ≤ opMsgMax)
    (flags budget : UInt32) :
    opCmdTransmit i.val n flags budget = Command.line { verb := 0x74, channel := some i.val
                                                        args := [(n : Int), arg flags,
                                                          arg budget] } ∧
      (Command.line { verb := 0x74, channel := some i.val
                      args := [(n : Int), arg flags, arg budget] }).length < opCmdMax := by
  have hch : (decimal i.val).length ≤ 2 :=
    decimal_length_le (by decide) (Nat.lt_trans i.isLt (by decide))
  have hlen : (decimal n).length ≤ 4 := decimal_length_le (by decide) (by
    show n < 10000
    have : opMsgMax = 4128 := rfl
    omega)
  have hu : ∀ v : UInt32, (decimal v.toNat).length ≤ 10 := fun v =>
    decimal_length_le (by decide) (Nat.lt_trans v.toNat_lt (by decide))
  have hshort : (Command.line { verb := 0x74, channel := some i.val
                                args := [(n : Int), arg flags, arg budget] }).length <
                                  opCmdMax := by
    show (0x61 :: 0x74 :: 0x74 ::
      (decimal i.val ++ (0x20 :: (decimal n ++ (0x20 :: (decimal flags.toNat ++
      (0x20 :: (decimal budget.toNat ++ [])))))) ++ [0x0d, 0x0a])).length < 64
    have hf := hu flags
    have hb := hu budget
    simp only [List.length_cons, List.length_append, List.length_nil]
    omega
  refine ⟨?_, hshort⟩
  unfold opCmdTransmit
  rw [if_neg (by omega)]
  unfold emit
  rw [if_neg (by omega)]

/-- A transmit is refused, or it is one transaction. -/
theorem transmit_ran (x : Exchange) (d : OpDevice) (i : Fin 10) (m : PassThruMsg)
    (us timeoutMs : UInt32) (wait : Bool) {r : OpStatus × Option OpReply × OpDevice}
    (hr : r = cmdExchange x d (askTransmit printed i.val m us).command.line m.payload timeoutMs
      wait) :
    (r.2.2.log = d.log ∧ r.1 ≠ .ok) ∨
      ∃ t, r.2.2.log = .txn t :: d.log ∧ Transmits i m t ∧ t.seq = d.seqNext ∧ t.waited = wait ∧
        t.result = r.1 ∧ (r.1 = .ok → t.written = .ok) := by
  subst hr
  obtain ⟨-, ⟨hlog, hne, -⟩ | ⟨t, ht⟩⟩ := cmdExchange_cases x d
    (askTransmit printed i.val m us).command.line m.payload timeoutMs wait
  · exact Or.inl ⟨hlog, hne⟩
  · refine Or.inr ⟨t, ht.log, ⟨us, ht.line (by simp [askTransmit]), ht.payload⟩,
      ht.seq (by simp [askTransmit]) (by simp [askTransmit]), ht.waited, ht.result, ?_⟩
    intro hok
    have hres := ht.result.trans hok
    cases hw : t.waited with
    | true => exact ht.settled.written hw hres
    | false => exact (ht.settled.unwaited hw).symm.trans hres

/-! ## 3. What the loop meets -/

section Inputs

variable (env : CallEnv) (s : Driver) (i : Fin 10) (msgs : Nat → PassThruMsg) (timeout : UInt64)

/-- What is left of the Timeout before message `k`. -/
def leftMs (k : Nat) : Int := remainingMs timeout (elapsedMs (env.clock 0) (env.clock (k + 1)))

/-- What message `k` is told to wait. -/
def waitOf (k : Nat) : UInt32 := writeWait timeout (elapsedMs (env.clock 0) (env.clock (k + 1)))

/-- What arrives while message `k` is sent, where it goes out. -/
def heardWith (k : Nat) : List Arrival :=
  let x := env.exchange k
  x.before ++ if waitOf env timeout k = 0 then x.early else x.early ++ x.late

/-- What arrives before the call comes to message `k`. -/
def heardBefore : Nat → List Arrival
  | 0 => []
  | k + 1 => heardBefore k ++ heardWith env timeout k

/-- The reader as message `k` finds it. -/
def readerAt (k : Nat) : OpDevice := arrivals s.dev (heardBefore env timeout k)

/-- The number message `k` goes out with. -/
def numberBefore : Nat → UInt32
  | 0 => s.dev.seqNext
  | k + 1 => nextNumber (numberBefore k)

/-- The lines that come within the wait of message `k`. -/
def waitLines (k : Nat) : List Line := (env.exchange k).lines (readerAt env s timeout k)

/-- The driver takes the line for an acknowledgement, but it is none: an error of code 0, or a line
    that does not end with the command's number. -/
def Line.Misread (seq : UInt32) (l : Line) : Prop :=
  l.reply.kind = .error ∧ l.reply.errorCode = 0 ∨
    l.reply.kind ≠ .error ∧ (trailing l.bytes).getLast? ≠ some seq.toNat

/-- Message `k` is valid and goes out. -/
def Departs (k : Nat) : Prop :=
  (msgOk s i (msgs k)).code = statusNoerror ∧
    goesOut (env.exchange k) (readerAt env s timeout k) = true

/-- Message `k` is counted: it is sent, and is told not to wait or its wait ends with a line that
    `reply_to_status` takes for a success. -/
def Passes (k : Nat) : Prop :=
  Departs env s i msgs timeout k ∧ (waitOf env timeout k = 0 ∨
    ∃ l, lastEcho (numberBefore s k) (waitLines env s timeout k) = some l ∧
      replyToStatus l.reply = statusNoerror)

/-- Message `k` is sent and told not to wait, or its wait ends with a line that is misread and
    holds no other that acknowledges it. -/
def Slips (k : Nat) : Prop :=
  Departs env s i msgs timeout k ∧ (waitOf env timeout k = 0 ∨
    (∃ l, lastEcho (numberBefore s k) (waitLines env s timeout k) = some l ∧
      l.Misread (numberBefore s k)) ∧
    ∀ l ∈ waitLines env s timeout k, ¬l.Acknowledges (numberBefore s k))

/-- None of the messages the loop reaches slips: a message is reached when those before it pass and
    the Timeout is not over. -/
def WriteClear : Nat → Nat → Prop
  | 0, _ => True
  | left + 1, k =>
    timeout ≠ 0 ∧ leftMs env timeout k ≤ 0 ∨
      ¬Slips env s i msgs timeout k ∧ (Passes env s i msgs timeout k → WriteClear left (k + 1))

end Inputs

/-- **A line is misread only where it is an error of code 0, or longer than `op_parse` keeps**: it
    has a ninth number, or one that 32 bits cannot hold. -/
theorem misread_long {env : CallEnv} {s : Driver} {timeout : UInt64} {k : Nat} {l : Line}
    (hl : lastEcho (numberBefore s k) (waitLines env s timeout k) = some l)
    (hm : l.Misread (numberBefore s k)) (ht : l.reply.kind.tailed = true) :
    l.reply.kind = .error ∧ l.reply.errorCode = 0 ∨
      (tailMax < (trailing l.bytes).length ∨ ∃ n ∈ trailing l.bytes, 2 ^ 32 ≤ n) := by
  refine hm.imp_right fun h => ?_
  obtain ⟨hmem, he⟩ := List.mem_filter.mp (List.mem_of_getLast? hl)
  exact l.echoes_long (linesHeard_kept _ _ l hmem) he ht h.2

/-! ## 4. The loop -/

/-- What a write that had `sent` messages done and `left` to go says of the transmits it logged:
    those it counts, in order, and one more at most. -/
structure Wrote (i : Fin 10) (msgs : Nat → PassThruMsg) (sent left : Nat) (d : OpDevice)
    (counted tail : List Txn) (r : Ret Nat) : Prop where
  out : r.out = some (sent + counted.length)
  bound : counted.length ≤ left
  log : r.drv.dev.log = ((counted ++ tail).map Event.txn).reverse ++ d.log
  each : ∀ (j : Nat) (h : j < counted.length), Transmits i (msgs (sent + j)) counted[j]
  rest : tail = [] ∨ counted.length < left ∧ ∃ t, tail = [t] ∧
    Transmits i (msgs (sent + counted.length)) t
  code : r.code = statusNoerror ↔ counted.length = left

/-- A write that counts nothing more and fails. -/
theorem Wrote.stopped {i : Fin 10} {msgs : Nat → PassThruMsg} {sent left : Nat} {d : OpDevice}
    {tail : List Txn} {r : Ret Nat} (hout : r.out = some sent)
    (hlog : r.drv.dev.log = (tail.map Event.txn).reverse ++ d.log)
    (htail : tail = [] ∨ ∃ t, tail = [t] ∧ Transmits i (msgs sent) t)
    (hcode : r.code ≠ statusNoerror) :
    Wrote i msgs sent (left + 1) d [] tail r :=
  ⟨hout, Nat.zero_le _, hlog, fun _ h => absurd h (Nat.not_lt_zero _),
    htail.imp_right fun h => ⟨Nat.succ_pos left, h⟩, fun h => absurd h hcode,
    fun h => absurd h (Nat.succ_ne_zero left).symm⟩

/-- A write that counts this message and goes on. -/
theorem Wrote.cons {i : Fin 10} {msgs : Nat → PassThruMsg} {sent left : Nat}
    {d d' : OpDevice} {t : Txn}
    {counted tail : List Txn} {r : Ret Nat} (hlog : d'.log = .txn t :: d.log)
    (ht : Transmits i (msgs sent) t)
    (h : Wrote i msgs (sent + 1) left d' counted tail r) :
    Wrote i msgs sent (left + 1) d (t :: counted) tail r := by
  have hlen : (t :: counted).length = counted.length + 1 := rfl
  have hsucc : ∀ n, sent + 1 + n = sent + (n + 1) := fun n => by omega
  refine ⟨?_, Nat.succ_le_succ h.bound, ?_, ?_, ?_, ?_⟩
  · rw [h.out, hlen, hsucc]
  · rw [h.log, hlog]
    simp
  · intro j hj
    cases j with
    | zero => exact ht
    | succ j =>
        have := h.each j (Nat.lt_of_succ_lt_succ hj)
        rwa [hsucc] at this
  · refine h.rest.imp_right ?_
    intro hx
    obtain ⟨hlt, u, hu, hm⟩ := hx
    rw [hsucc] at hm
    exact ⟨Nat.succ_lt_succ hlt, u, hu, hm⟩
  · rw [h.code, hlen, Nat.succ_inj]

/-- What a write says is told by its count and its log. -/
theorem Wrote.unique {i : Fin 10} {msgs : Nat → PassThruMsg} {sent left : Nat} {d : OpDevice}
    {counted tail counted' tail' : List Txn} {r : Ret Nat}
    (h : Wrote i msgs sent left d counted tail r)
    (h' : Wrote i msgs sent left d counted' tail' r) : counted = counted' := by
  have hlen : counted.length = counted'.length := by
    have := Option.some.inj (h.out.symm.trans h'.out)
    omega
  have hlog := List.append_cancel_right (h.log.symm.trans h'.log)
  have hall : counted ++ tail = counted' ++ tail' :=
    List.map_injective_iff.mpr (fun _ _ e => Event.txn.inj e) (List.reverse_inj.mp hlog)
  exact (List.append_inj hall hlen).1

/-- The loop has come to message `k`. -/
structure Arrives (env : CallEnv) (s : Driver) (timeout : UInt64) (k : Nat) (s' : Driver) :
    Prop where
  opened : s'.dev.opened = true
  number : s'.dev.seqNext = numberBefore s k
  stream : SameStream (readerAt env s timeout k) s'.dev

section Message

variable {env : CallEnv} {s s' : Driver} {i : Fin 10} {msgs : Nat → PassThruMsg} {timeout : UInt64}
  {k : Nat}

theorem Arrives.start (hopen : s.dev.opened = true) : Arrives env s timeout 0 s :=
  ⟨hopen, rfl, .refl s.dev⟩

theorem Arrives.goesOut (h : Arrives env s timeout k s') :
    goesOut (env.exchange k) s'.dev =
      Openport.goesOut (env.exchange k) (readerAt env s timeout k) := by
  unfold Openport.goesOut
  rw [(arrivals_same _ h.stream).lost]

theorem Arrives.lines (h : Arrives env s timeout k s') :
    (env.exchange k).lines s'.dev = waitLines env s timeout k :=
  linesHeard_same _ (arrivals_same _ h.stream)

/-- `msg_ok` goes by the channel's protocol alone. -/
theorem msgOk_code {s s' : Driver} (h : (s'.dev.ch i).protocol = (s.dev.ch i).protocol)
    (m : PassThruMsg) : (msgOk s' i m).code = (msgOk s i m).code := by
  have hbase : (s'.dev.ch i).base = (s.dev.ch i).base := by
    unfold OpChannel.base
    rw [h]
  unfold msgOk
  simp only
  rw [hbase]
  split
  · rfl
  split <;> rfl

theorem Arrives.msgOk (h : Arrives env s timeout k s') (m : PassThruMsg) :
    (msgOk s' i m).code = (Openport.msgOk s i m).code := by
  refine msgOk_code ?_ m
  rw [h.stream.ch]
  exact (arrivals_steady s.dev _).protocol i

/-- Behind a message that went out the loop comes to the next. -/
theorem Arrives.next (h : Arrives env s timeout k s') {r : OpStatus × Option OpReply × OpDevice}
    (hout : WentOut (env.exchange k) s'.dev (!decide (waitOf env timeout k = 0)) r) :
    Arrives env s timeout (k + 1) { s' with dev := r.2.2 } := by
  refine ⟨hout.opened, ?_, ?_⟩
  · rw [hout.seqNext, h.number]
    rfl
  · have hstream := (arrivals_same _ h.stream).trans hout.stream
    rw [readerAt, ← arrivals_append] at hstream
    have heq : heardBefore env timeout (k + 1) = heardBefore env timeout k ++
        ((env.exchange k).before ++ if (!decide (waitOf env timeout k = 0)) = true then
          (env.exchange k).early ++ (env.exchange k).late else (env.exchange k).early) := by
      show _ ++ heardWith env timeout k = _
      unfold heardWith
      by_cases hw : waitOf env timeout k = 0 <;> simp [hw]
    rw [readerAt, heq]
    exact hstream

/-- A reply's status is told by what its caller is given. -/
theorem replyToStatus_matched (r : OpReply) :
    replyToStatus (matchedReply r) = replyToStatus r := rfl

/-- What is misread passes. -/
theorem Slips.passes (h : Slips env s i msgs timeout k) : Passes env s i msgs timeout k := by
  refine ⟨h.1, h.2.imp_right ?_⟩
  rintro ⟨⟨l, hl, hm⟩, -⟩
  refine ⟨l, hl, ?_⟩
  rcases hm with ⟨hk, h0⟩ | ⟨hk, -⟩
  · rw [replyToStatus_error hk]
    exact deviceError_zero.mpr h0
  · exact replyToStatus_ok hk

/-- **A message that passes is acknowledged exactly where it does not slip.** -/
theorem Passes.acked {t : Txn} (h : Passes env s i msgs timeout k) (hseq : t.seq = numberBefore s k)
    (hwaited : t.waited = !decide (waitOf env timeout k = 0)) (hwritten : t.written = .ok)
    (hresult : t.result = .ok) :
    Acked (waitLines env s timeout k) t ↔ ¬Slips env s i msgs timeout k := by
  by_cases hw : waitOf env timeout k = 0
  · refine ⟨fun ha => ?_, fun hno => absurd ⟨h.1, Or.inl hw⟩ hno⟩
    have hyes := ha.waited
    rw [hwaited, hw] at hyes
    cases hyes
  · refine ⟨fun ha hslip => ?_, fun hno => ?_⟩
    · obtain ⟨l, hl, hack⟩ := ha.answer
      rcases hslip.2 with h0 | ⟨-, hnone⟩
      · exact hw h0
      · exact hnone l hl (hseq ▸ hack)
    · refine ⟨hwritten, hwaited.trans (by simp [hw]), hresult, ?_⟩
      refine Classical.byContradiction fun hnone => hno ⟨h.1, Or.inr ⟨?_, ?_⟩⟩
      · obtain h0 | ⟨l, hl, hst⟩ := h.2
        · exact absurd h0 hw
        obtain ⟨hmem, he⟩ := List.mem_filter.mp (List.mem_of_getLast? hl)
        refine ⟨l, hl, ?_⟩
        by_cases hk : l.reply.kind = .error
        · rw [replyToStatus_error hk] at hst
          exact Or.inl ⟨hk, deviceError_zero.mp hst⟩
        · -- it echoes the number as the driver reads it, and the line does not end with it
          refine Or.inr ⟨hk, fun hlast => hnone ⟨l, hmem, hk, ?_⟩⟩
          unfold Line.echoes at he
          simp only [Bool.and_eq_true, bne_iff_ne] at he
          exact ⟨he.1.1, he.1.2, hseq ▸ hlast⟩
      · exact fun l hl hack => hnone ⟨l, hl, hseq.symm ▸ hack⟩

/-- What `write_one` says of the transmit it logged. -/
structure Transmitted (s' : Driver) (i : Fin 10) (m : PassThruMsg) (wait : UInt32) (r : Ret Unit)
    (t : Txn) : Prop where
  log : r.drv.dev.log = .txn t :: s'.dev.log
  transmits : Transmits i m t
  seq : t.seq = s'.dev.seqNext
  waited : t.waited = !decide (wait = 0)
  settled : r.code = statusNoerror → t.written = .ok ∧ t.result = .ok

/-- A command that is waited for and goes out is a success exactly where its wait ends with a line
    that `reply_to_status` takes for one. -/
theorem simpleCmd_out {x : Exchange} {d : OpDevice} {line payload : Bytes} {timeoutMs : UInt32}
    (h : WentOut x d true (cmdExchange x d line payload timeoutMs true)) :
    (simpleCmd x d line payload timeoutMs).1 = statusNoerror ↔
      ∃ l, lastEcho d.seqNext (x.lines d) = some l ∧ replyToStatus l.reply = statusNoerror := by
  have hreply := h.reply rfl
  have hresult := h.result rfl
  unfold simpleCmd opDeviceCmd
  simp only
  unfold answerOf at hreply hresult
  cases hlast : lastEcho d.seqNext (x.lines d) with
  | none =>
      rw [hlast] at hresult
      have hno : (cmdExchange x d line payload timeoutMs true).1 ≠ .ok := fun e => by
        cases hresult.mp e
      rw [if_pos hno]
      refine ⟨fun e => absurd (opStatusToJ2534_eq_zero.mp e) hno, ?_⟩
      rintro ⟨l, hl, -⟩
      cases hl
  | some l =>
      rw [hlast] at hreply hresult
      rw [if_neg (not_not_intro (hresult.mpr rfl)), hreply]
      show replyToStatus (matchedReply l.reply) = statusNoerror ↔ _
      rw [replyToStatus_matched]
      refine ⟨fun e => ⟨l, rfl, e⟩, ?_⟩
      rintro ⟨l', hl', e⟩
      cases hl'
      exact e

/-- A message that passes its checks: its transmit, told to wait or not. -/
theorem writeOne_sends (x : Exchange) {s : Driver} {i : Fin 10} {m : PassThruMsg} (wait : UInt32)
    (hok : (Openport.msgOk s i m).code = statusNoerror) :
    m.payload.length ≤ opMsgMax ∧ ∃ us,
      (askTransmit printed i.val m us).command.line.length < opCmdMax ∧
      writeOne x s i m wait =
        let line := (askTransmit printed i.val m us).command.line
        if wait = 0 then
          let r := cmdExchange x s.dev line m.payload 1000 false
          ⟨opStatusToJ2534 r.1, none, { s with dev := r.2.2 }⟩
        else
          let r := simpleCmd x s.dev line m.payload wait
          ⟨r.1, none, { s with dev := r.2.2 }⟩ := by
  obtain ⟨h1, h2⟩ := msgOk_size hok
  obtain ⟨hline, hshort⟩ := opCmdTransmit_line i h1 h2 m.txFlags.toUInt32 (budgetUs s.dev i wait)
  have hcmd : opCmdTransmit i.val m.dataSize.toNat m.txFlags.toUInt32 (budgetUs s.dev i wait) =
    (askTransmit printed i.val m (budgetUs s.dev i wait)).command.line := hline
  refine ⟨by rw [m.payload_length]; exact h2, budgetUs s.dev i wait, hshort, ?_⟩
  have hne : (askTransmit printed i.val m (budgetUs s.dev i wait)).command.line ≠ [] :=
    List.append_ne_nil_of_right_ne_nil _ (by decide)
  unfold writeOne
  simp only
  rw [if_neg (not_not_intro hok), hcmd, if_neg hne]
  rfl

/-- Message `k` is sent, and its transmit's end read as a code: it is a success exactly where the
    message passes, and the loop then comes to the next. -/
theorem sent_at (h : Arrives env s timeout k s') (hn : 256 ≤ s'.dev.seqNext.toNat)
    (hok : (Openport.msgOk s' i (msgs k)).code = statusNoerror) {us : UInt32}
    (hshort : (askTransmit printed i.val (msgs k) us).command.line.length < opCmdMax)
    (hp : (msgs k).payload.length ≤ opMsgMax) {timeoutMs : UInt32} {wait : Bool}
    (hwait : wait = !decide (waitOf env timeout k = 0)) {q : OpStatus × Option OpReply × OpDevice}
    (hq : q = cmdExchange (env.exchange k) s'.dev
      (askTransmit printed i.val (msgs k) us).command.line (msgs k).payload timeoutMs wait)
    {code : Nat} (hdone : code = statusNoerror → q.1 = .ok)
    (hiff : WentOut (env.exchange k) s'.dev wait q → (code = statusNoerror ↔
      waitOf env timeout k = 0 ∨ ∃ l, lastEcho (numberBefore s k) (waitLines env s timeout k) =
        some l ∧ replyToStatus l.reply = statusNoerror))
    {r : Ret Unit} (hr : r = ⟨code, none, { s' with dev := q.2.2 }⟩) :
    (r.code = statusNoerror ↔ Passes env s i msgs timeout k) ∧
      (r.code = statusNoerror → Arrives env s timeout (k + 1) r.drv) ∧
      (r.code ≠ statusNoerror ∧ r.drv.dev.log = s'.dev.log ∨
        ∃ t, Transmitted s' i (msgs k) (waitOf env timeout k) r t) := by
  have hne : s'.dev.seqNext ≠ 0 := fun e => by
    rw [e] at hn
    exact absurd hn (by decide)
  have hdeparts : Departs env s i msgs timeout k ↔
      Openport.goesOut (env.exchange k) s'.dev = true := by
    rw [h.goesOut]
    exact ⟨fun hd => hd.2, fun hg => ⟨(h.msgOk (msgs k)).symm.trans hok, hg⟩⟩
  have hout : Openport.goesOut (env.exchange k) s'.dev = true →
      WentOut (env.exchange k) s'.dev wait q := fun hg => hq ▸
    cmdExchange_out hshort hp hg h.opened hne (by simp [askTransmit]) (by simp [askTransmit])
      (by simp [askTransmit]) (by simp [askTransmit]) timeoutMs wait
  have hgone : code = statusNoerror → Openport.goesOut (env.exchange k) s'.dev = true := fun e =>
    Bool.eq_true_of_not_eq_false fun hg =>
      cmdExchange_stays hshort hp hg timeoutMs wait (hq ▸ hdone e)
  have hran := transmit_ran (env.exchange k) s'.dev i (msgs k) us timeoutMs wait rfl
  rw [← hq] at hran
  subst hr
  refine ⟨⟨fun e => ?_, fun hpass => ?_⟩, fun e => h.next (hwait ▸ hout (hgone e)), ?_⟩
  · exact ⟨hdeparts.mpr (hgone e), (hiff (hout (hgone e))).mp e⟩
  · exact (hiff (hout (hdeparts.mp hpass.1))).mpr hpass.2
  · rcases hran with ⟨hlog, hno⟩ | ⟨t, hlog, htr, hseq, hwaited, hres, hwritten⟩
    · exact Or.inl ⟨fun e => hno (hdone e), hlog⟩
    · exact Or.inr ⟨t, hlog, htr, hseq, hwaited.trans hwait,
        fun e => ⟨hwritten (hdone e), hres.trans (hdone e)⟩⟩

/-- **`write_one` at message `k`**: it sends its transmit or nothing, and succeeds exactly where the
    message passes; the loop then comes to the next. -/
theorem writeOne_at (h : Arrives env s timeout k s') (hn : 256 ≤ s'.dev.seqNext.toNat)
    {r : Ret Unit} (hr : r = writeOne (env.exchange k) s' i (msgs k) (waitOf env timeout k)) :
    (r.code = statusNoerror ↔ Passes env s i msgs timeout k) ∧
      (r.code = statusNoerror → Arrives env s timeout (k + 1) r.drv) ∧
      (r.code ≠ statusNoerror ∧ r.drv.dev.log = s'.dev.log ∨
        ∃ t, Transmitted s' i (msgs k) (waitOf env timeout k) r t) := by
  by_cases hok : (Openport.msgOk s' i (msgs k)).code = statusNoerror
  swap
  · have hr' : r = Openport.msgOk s' i (msgs k) := by
      rw [hr]
      unfold writeOne
      simp only
      rw [if_pos hok]
    rw [hr', msgOk_dev]
    exact ⟨⟨fun e => absurd e hok, fun hp => absurd ((h.msgOk (msgs k)).trans hp.1.1) hok⟩,
      fun e => absurd e hok, Or.inl ⟨hok, rfl⟩⟩
  obtain ⟨hp, us, hshort, hsends⟩ := writeOne_sends (env.exchange k) (waitOf env timeout k) hok
  rw [hsends] at hr
  simp only at hr
  by_cases hw : waitOf env timeout k = 0
  · rw [if_pos hw] at hr
    refine sent_at h hn hok hshort hp (show false = !decide (waitOf env timeout k = 0) by simp [hw])
      rfl (fun e => ?_) (fun hout => ?_) hr
    · exact opStatusToJ2534_eq_zero.mp e
    · exact ⟨fun _ => Or.inl hw, fun _ => opStatusToJ2534_eq_zero.mpr (hout.unwaited rfl)⟩
  · rw [if_neg hw, simpleCmd_dev] at hr
    refine sent_at h hn hok hshort hp (show true = !decide (waitOf env timeout k = 0) by simp [hw])
      rfl (fun e => ?_) (fun hout => ?_) hr
    · obtain ⟨t, -, ht, hdone, -⟩ := simpleCmd_ok e
      exact ht.result.symm.trans hdone
    · rw [simpleCmd_out hout, h.lines, h.number]
      exact ⟨Or.inr, fun e => e.resolve_left hw⟩

end Message

section

variable (env : CallEnv) (s : Driver) (i : Fin 10) (msgs : Nat → PassThruMsg)
  (want timeout : UInt64)

/-- **The loop counts messages it sent one after the other, and they are acknowledged exactly
    where none slips.** -/
theorem writeLoop_counts (left : Nat) : ∀ (k : Nat) (s' : Driver), Arrives env s timeout k s' →
    256 ≤ s'.dev.seqNext.toNat →
    ∃ counted tail, Wrote i msgs k left s'.dev counted tail
      (writeLoop env i msgs want timeout left k s') ∧
      (WriteClear env s i msgs timeout left k ↔ ∀ (j : Nat) (h : j < counted.length),
        Acked (waitLines env s timeout (k + j)) counted[j]) := by
  induction left with
  | zero =>
      refine fun k s' _ _ => ⟨[], [], ⟨rfl, Nat.le_refl 0, rfl, ?_, Or.inl rfl, ?_⟩, ?_⟩
      · exact fun _ h => absurd h (Nat.not_lt_zero _)
      · exact ⟨fun _ => rfl, fun _ => rfl⟩
      · exact ⟨fun _ _ h => absurd h (Nat.not_lt_zero _), fun _ => trivial⟩
  | succ left ih =>
      intro k s' h hn
      obtain ⟨text, hloop⟩ : ∃ text, writeLoop env i msgs want timeout (left + 1) k s' =
          if timeout ≠ 0 ∧ leftMs env timeout k ≤ 0 then (s'.failText errTimeout text).writing k
          else
            let r := writeOne (env.exchange k) s' i (msgs k) (waitOf env timeout k)
            if r.code ≠ statusNoerror then (r.drv.fail r.code "PassThruWriteMsgs").writing k
            else writeLoop env i msgs want timeout left (k + 1) r.drv := ⟨_, rfl⟩
      rw [hloop]
      simp only
      by_cases hover : timeout ≠ 0 ∧ leftMs env timeout k ≤ 0
      · rw [if_pos hover]
        refine ⟨[], [], Wrote.stopped rfl rfl (Or.inl rfl)
          (by decide : errTimeout ≠ statusNoerror), ?_⟩
        exact ⟨fun _ _ h => absurd h (Nat.not_lt_zero _), fun _ => Or.inl hover⟩
      rw [if_neg hover]
      obtain ⟨hpasses, hnext, hlog⟩ := writeOne_at (i := i) h hn rfl
      have hkept := writeOne_kept (env.exchange k) s' i (msgs k) (waitOf env timeout k)
      generalize writeOne (env.exchange k) s' i (msgs k) (waitOf env timeout k) = r at *
      by_cases hc : r.code = statusNoerror
      · rw [if_neg (not_not_intro hc)]
        obtain ⟨t, ht⟩ := hlog.resolve_left fun e => e.1 hc
        obtain ⟨hwritten, hresult⟩ := ht.settled hc
        have hp := hpasses.mp hc
        have hack := hp.acked (ht.seq.trans h.number) ht.waited hwritten hresult
        obtain ⟨counted, tail, hcounts, hiff⟩ := ih (k + 1) r.drv (hnext hc) (hkept.numbers hn)
        refine ⟨t :: counted, tail, hcounts.cons ht.log ht.transmits, ?_⟩
        have hsucc : ∀ j, k + 1 + j = k + (j + 1) := fun j => by omega
        refine ⟨?_, fun hall => Or.inr ⟨hack.mp (hall 0 (Nat.succ_pos _)), fun _ => ?_⟩⟩
        · rintro (he | ⟨hno, hrest⟩)
          · exact absurd he hover
          intro j hj
          cases j with
          | zero => exact hack.mpr hno
          | succ j =>
              have hj' := hiff.mp (hrest hp) j (Nat.lt_of_succ_lt_succ hj)
              rwa [hsucc] at hj'
        · refine hiff.mpr fun j hj => ?_
          have hj' := hall (j + 1) (Nat.succ_lt_succ hj)
          rwa [hsucc]
      · rw [if_pos hc]
        have hfails : ¬Passes env s i msgs timeout k := fun hp => hc (hpasses.mpr hp)
        have hclear : WriteClear env s i msgs timeout (left + 1) k ↔
            ∀ (j : Nat) (h : j < ([] : List Txn).length), Acked (waitLines env s timeout (k + j))
              ([] : List Txn)[j] :=
          ⟨fun _ _ h => absurd h (Nat.not_lt_zero _),
            fun _ => Or.inr ⟨fun hs => hfails hs.passes, fun hp => absurd hp hfails⟩⟩
        rcases hlog with ⟨-, hlog⟩ | ⟨t, ht⟩
        · refine ⟨[], [], Wrote.stopped rfl ?_ (Or.inl rfl) hc, hclear⟩
          rw [Ret.writing_drv, Driver.fail_dev, hlog]
          rfl
        · refine ⟨[], [t], Wrote.stopped rfl ?_ (Or.inr ⟨t, rfl, ht.transmits⟩) hc, hclear⟩
          rw [Ret.writing_drv, Driver.fail_dev, ht.log]
          rfl

end

/-! ## 5. A write with a Timeout -/

/-- The call counts a prefix of its messages: each of it was sent once, in order, and
    acknowledged within its wait; one message behind it was sent at most, the next; and the call
    succeeds exactly when the prefix is everything. -/
def CountsAcked (env : CallEnv) (s : Driver) (i : Fin 10) (msgs : Nat → PassThruMsg)
    (want timeout : UInt64) (r : Ret Nat) : Prop :=
  ∃ acked tail, Wrote i msgs 0 want.toNat s.dev acked tail r ∧
    ∀ (k : Nat) (h : k < acked.length), Acked (waitLines env s timeout k) acked[k]

/-- **`PassThruWriteMsgs` counts only acknowledged messages exactly where no message it reaches
    slips**: on every open channel of every driver a run leads to, for every array, every Timeout,
    every clock and everything the cable does. -/
theorem writeMsgs_counts_acked {s : Driver} (hs : Relation.ReflTransGen TimedMoves {} s)
    (hopen : s.dev.opened = true) (env : CallEnv) {channelID : UInt64} {i : Fin 10}
    (hi : channelOf s.dev channelID = some i) (msgs : Nat → PassThruMsg) (want timeout : UInt64) :
    CountsAcked env s i msgs want timeout
      (passThruWriteMsgs env s channelID (some msgs) (some want) timeout) ↔
      WriteClear env s i msgs timeout want.toNat 0 := by
  have hcall : passThruWriteMsgs env s channelID (some msgs) (some want) timeout =
      writeLoop env i msgs want timeout want.toNat 0 s.errClear := by
    have hno : ¬(!s.errClear.dev.opened) = true := by
      rw [Driver.errClear_dev, hopen]
      decide
    have hi' : channelOf s.errClear.dev channelID = some i := hi
    unfold passThruWriteMsgs
    simp only
    rw [if_neg hno, hi']
    rfl
  rw [hcall]
  have hstart : Arrives env s timeout 0 s.errClear := ⟨hopen, rfl, .refl s.dev⟩
  obtain ⟨counted, tail, hcounts, hiff⟩ :=
    writeLoop_counts env s i msgs want timeout want.toNat 0 s.errClear hstart
      (show 256 ≤ s.dev.seqNext.toNat from timed_numbers hs hopen)
  simp only [Nat.zero_add] at hiff
  rw [hiff]
  refine ⟨?_, fun hall => ⟨counted, tail, hcounts, hall⟩⟩
  rintro ⟨acked, tail', h, hall⟩
  rw [Wrote.unique hcounts h]
  exact hall

/-- One byte for the K line. -/
def kLineMsg : PassThruMsg := { protocolID := iso9141, dataSize := 1 }

theorem kLineDriver_timed : Relation.ReflTransGen TimedMoves {} kLineDriver :=
  .tail (.tail .refl (.call _ _ (.passThruOpen true) 0 openedEnv _ rfl (by decide) (by decide)))
    (.call _ _ (.passThruConnect 1 iso9141 0 10400 true) 0 (okEnv 258) _ rfl
      (by decide) (by decide))

/-- A message of whose wait a line acknowledges it does not slip. -/
theorem Line.Acknowledges.clears {env : CallEnv} {s : Driver} {i : Fin 10}
    {msgs : Nat → PassThruMsg} {timeout : UInt64} {k : Nat} {l : Line}
    (h : l.Acknowledges (numberBefore s k)) (hl : l ∈ waitLines env s timeout k)
    (hw : waitOf env timeout k ≠ 0) : ¬Slips env s i msgs timeout k := by
  rintro ⟨-, h0 | ⟨-, hno⟩⟩
  · exact hw h0
  · exact hno l hl h

/-- Three transmits are answered: at once, by "aro 260" and an error of code 0, and behind a line
    with a ninth number that the driver does not read. -/
def answersEnv : CallEnv :=
  { exchange := fun k => answeredBy (ascii (match k with
      | 0 => "aro 259\r\n"
      | 1 => "aro 260\r\nare 0 260\r\n"
      | _ => "aro 0 0 0 0 0 0 0 0 261\r\naro 261\r\n")) }

/-- A line of it that acknowledges. -/
def ackLine (seq : UInt32) (text : String) : Line := ⟨{ kind := .ok, tail := [seq] }, ascii text⟩

/-- A write of three messages that are acknowledged. -/
theorem writeMsgs_counts_acked_kLine :
    (passThruWriteMsgs answersEnv kLineDriver 3 (some fun _ => kLineMsg) (some 3) 1000).out =
        some 3 ∧
      CountsAcked answersEnv kLineDriver 3 (fun _ => kLineMsg) 3 1000
        (passThruWriteMsgs answersEnv kLineDriver 3 (some fun _ => kLineMsg) (some 3) 1000) := by
  refine ⟨by decide +kernel, ?_⟩
  refine (writeMsgs_counts_acked kLineDriver_timed (by decide) answersEnv (by decide)
    (fun _ => kLineMsg) 3 1000).mpr ?_
  have h0 : (ackLine 259 "aro 259\r\n").Acknowledges (numberBefore kLineDriver 0) := by
    unfold Line.Acknowledges
    decide +kernel
  have h1 : (ackLine 260 "aro 260\r\n").Acknowledges (numberBefore kLineDriver 1) := by
    unfold Line.Acknowledges
    decide +kernel
  have h2 : (ackLine 261 "aro 261\r\n").Acknowledges (numberBefore kLineDriver 2) := by
    unfold Line.Acknowledges
    decide +kernel
  exact Or.inr ⟨h0.clears (by decide +kernel) (by decide), fun _ =>
    Or.inr ⟨h1.clears (by decide +kernel) (by decide), fun _ =>
      Or.inr ⟨h2.clears (by decide +kernel) (by decide), fun _ => trivial⟩⟩⟩

/-- A line with nine numbers, of which the driver reads eight. -/
def longEnv : CallEnv :=
  { exchange := fun _ => answeredBy (ascii "aro 0 0 0 0 0 0 0 259 258\r\n") }

/-- The write is counted, and the line ends with another number than the transmit's. -/
example :
    (passThruWriteMsgs longEnv kLineDriver 3 (some fun _ => kLineMsg) (some 1) 1000).out = some 1 ∧
      (waitLines longEnv kLineDriver 1000 0).map (fun l => (trailing l.bytes).getLast?) =
        [some 258] := by
  decide +kernel

/-- What a write with a Timeout of 2 ^ 32 puts on the wire. -/
def unwaitedTxn : Txn :=
  { line := ascii "att3 1 0 1000000 259\r\n", payload := [0], seq := 259, waited := false,
    timeoutMs := 1000
    written := .ok, result := .ok, reply := none }

/-- **A message sent with 2 ^ 32 ms left is counted, and nothing waited for its answer.** -/
theorem writeMsgs_counts_unwaited :
    Relation.ReflTransGen TimedMoves {} kLineDriver ∧
      let r := passThruWriteMsgs {} kLineDriver 3 (some fun _ => kLineMsg) (some 1) 0x100000000
      r.code = statusNoerror ∧ r.out = some 1 ∧ r.drv.dev.log =
        .txn unwaitedTxn :: kLineDriver.dev.log ∧
        ¬CountsAcked {} kLineDriver 3 (fun _ => kLineMsg) 1 0x100000000 r := by
  have hlog : (passThruWriteMsgs {} kLineDriver 3 (some fun _ => kLineMsg)
    (some 1) 0x100000000).drv.dev.log =
    .txn unwaitedTxn :: kLineDriver.dev.log := by decide
  have hout : (passThruWriteMsgs {} kLineDriver 3 (some fun _ => kLineMsg)
    (some 1) 0x100000000).out = some 1 := by
    decide
  refine ⟨kLineDriver_timed, by decide, hout, hlog, ?_⟩
  rintro ⟨acked, tail, h, hall⟩
  have hlen : 0 < acked.length := by
    have := Option.some.inj (h.out.symm.trans hout)
    omega
  have hmem : Event.txn acked[0] ∈ [Event.txn unwaitedTxn] := by
    rw [← List.append_cancel_right (h.log.symm.trans (hlog.trans (List.singleton_append).symm))]
    simp
  have hack := hall 0 hlen
  rw [show acked[0] = unwaitedTxn from Event.txn.inj (List.mem_singleton.mp hmem)] at hack
  exact absurd hack.waited (by decide)

end Openport
