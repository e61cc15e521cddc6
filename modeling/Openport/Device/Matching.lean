/-
  File:      Openport/Device/Matching.lean
  Subject:   A numbered command never receives another command's reply.

  The session as a step relation: commands are issued one at a time and end by a
  collected reply, a timeout, a failed write or without a wait; the device
  answers numbered commands with their number, and any answer may be delivered
  at any time, any number of times or never, between any other records. The
  functions a step runs are the source's (`numberLine`, `claimSlot`, `handOn`,
  `collect`); `exchange_steps` says that `cmd_exchange` is such a sequence.
-/
import Openport.Device.Transaction
import Openport.Device.Stream
import Mathlib.Logic.Relation

namespace Openport

open Lib.Decimal

/-! ## 1. Numbers -/

/-- How many numbers there are: from 256 to 2^32 - 1. -/
def numberCount : Nat := 2 ^ 32 - 256

/-- The number of the `k`-th numbered command of a session that starts at `start`. -/
def nthNumber (start k : Nat) : Nat := 256 + (start - 256 + k) % numberCount

theorem nthNumber_ge (start k : Nat) : 256 ≤ nthNumber start k := Nat.le_add_right 256 _

theorem nthNumber_zero {start : Nat} (h : 256 ≤ start) (h' : start < 2 ^ 32) :
    nthNumber start 0 = start := by
  unfold nthNumber numberCount
  omega

/-- **Numbers repeat only after all of them were used.** -/
theorem nthNumber_inj {start j k : Nat} (hjk : j < k) (hk : k < j + numberCount) :
    nthNumber start j ≠ nthNumber start k := by
  unfold nthNumber numberCount at *
  omega

/-- Taking a number moves the counter to the next one. -/
theorem takeNumber_next {d : OpDevice} {start n : Nat} (h : d.seqNext.toNat = nthNumber start n) :
    (takeNumber d).2.seqNext.toNat = nthNumber start (n + 1) := by
  have hone : (d.seqNext + 1).toNat = (d.seqNext.toNat + 1) % 4294967296 := UInt32.toNat_add _ _
  show (if d.seqNext + 1 < 256 then (256 : UInt32) else d.seqNext + 1).toNat = _
  unfold nthNumber numberCount at *
  by_cases hw : d.seqNext + 1 < 256
  · rw [if_pos hw]
    have hlt : (d.seqNext + 1).toNat < 256 := UInt32.lt_iff_toNat_lt.mp hw
    have h256 : (256 : UInt32).toNat = 256 := rfl
    omega
  · rw [if_neg hw]
    have hge : ¬(d.seqNext + 1).toNat < 256 := fun e => hw (UInt32.lt_iff_toNat_lt.mpr e)
    omega

/-! ## 2. The session -/

/-- A command as it was issued. `id` counts the commands, so no two are one. -/
structure Issued where
  id : Nat
  /-- the numbered line -/
  line : Bytes
  payload : Bytes
  /-- its number, 0 for none -/
  seq : UInt32
  timeoutMs : UInt32
  waits : Bool
  deriving DecidableEq, Repr

def Issued.verb (a : Issued) : UInt8 := a.line.getD 2 0

/-- A numbered command that is no K-line init. -/
def Issued.Strict (a : Issued) : Prop := a.seq ≠ 0 ∧ a.verb ≠ 0x79 ∧ a.verb ≠ 0x77

/-- How a command ended. -/
structure Returned where
  cmd : Issued
  status : OpStatus
  reply : Option OpReply

structure Session where
  dev : OpDevice
  issued : List Issued := []
  /-- the answers the device has sent, each with the command it answers -/
  sent : List (Issued × Record) := []
  /-- the command whose transaction is open -/
  current : Option Issued := none
  returned : List Returned := []

/-- How many numbered commands were issued. -/
def Session.numbered (s : Session) : Nat := (s.issued.filter fun a => a.seq != 0).length

/-- A text reply: neither a frame, nor an `ari`, nor an init reply. -/
def Record.isText : Record → Bool
  | .frame _ _ _ | .info _ _ | .fastInit _ _ _ | .fiveBaud _ _ => false
  | _ => true

/-- A record that answers no command issued: a frame, an `ari`, an init reply, or a text reply
    whose last trailing field, if it has one, is no such command's number (for `arf` and `arg`
    the device puts a 0 there). -/
def Record.Stray (r : Record) (issued : List Issued) : Prop :=
  r.isText = true → ∀ a ∈ issued, a.seq ≠ 0 → r.tail.getLast? ≠ some a.seq

/-- The next command, as `cmd_exchange` issues it. -/
def Session.next (s : Session) (line payload : Bytes) (timeoutMs : UInt32)
    (waits : Bool) : Issued :=
  { id := s.issued.length, line := (numberLine s.dev line).1, payload := payload
    seq := (numberLine s.dev line).2.1, timeoutMs := timeoutMs, waits := waits }

/-- The transaction of a finished command. -/
def Issued.txn (a : Issued) (written result : OpStatus) (reply : Option OpReply) : Txn :=
  { line := a.line, payload := a.payload, seq := a.seq, waited := a.waits, timeoutMs := a.timeoutMs
    written := written, result := result, reply := reply }

/-- One step of the session. -/
inductive Step : Session → Session → Prop where
  /-- `cmd_exchange` numbers its line and claims the slot. -/
  | issue (s : Session) (line payload : Bytes) (timeoutMs : UInt32) (waits : Bool) (a : Issued) :
      s.current = none → s.dev.opened = true → s.dev.lost = false →
      a = s.next line payload timeoutMs waits →
      Step s { s with
        dev := claimSlot (numberLine s.dev line).2.2 waits a.seq a.verb
        issued := a :: s.issued
        current := some a }
  /-- The device answers a numbered command with its number. -/
  | answer (s : Session) (a : Issued) (r : Record) : a ∈ s.issued → a.seq ≠ 0 → r.isText = true →
      r.tail.getLast? = some a.seq → Step s { s with sent := (a, r) :: s.sent }
  /-- An answer arrives; it may arrive again. -/
  | deliver (s : Session) (a : Issued) (r : Record) : (a, r) ∈ s.sent →
      Step s { s with dev := handOn s.dev r.handed }
  /-- Something else arrives. -/
  | stray (s : Session) (r : Record) : r.Stray s.issued →
    Step s { s with dev := handOn s.dev r.handed }
  /-- The reader keeps the beginning of a record. -/
  | keep (s : Session) (accum : Bytes) : Step s { s with dev := { s.dev with accum := accum } }
  /-- The device disappears. -/
  | gone (s : Session) : Step s { s with dev := { s.dev with lost := true } }
  /-- The write failed, or the command does not wait. -/
  | drop (s : Session) (a : Issued) (st : OpStatus) : s.current = some a →
      st ≠ .ok ∨ a.waits = false →
      Step s { s with
        dev := ({ s.dev with cmdWaiting := false }).logged (a.txn st st none)
        current := none
        returned := ⟨a, st, none⟩ :: s.returned }
  /-- The wait ends, by a reply or by its deadline. -/
  | collect (s : Session) (a : Issued) : s.current = some a → a.waits = true →
      Step s { s with
        dev := (collect s.dev).2.2.logged (a.txn .ok (collect s.dev).1 (collect s.dev).2.1)
        current := none
        returned := ⟨a, (collect s.dev).1, (collect s.dev).2.1⟩ :: s.returned }

/-- Any number of steps. -/
abbrev Steps : Session → Session → Prop := Relation.ReflTransGen Step

/-- A session before its first command: nothing waits, and the counter is at a number. -/
structure SessionStart (s : Session) : Prop where
  number : 256 ≤ s.dev.seqNext.toNat
  waiting : s.dev.cmdWaiting = false
  issued : s.issued = []
  sent : s.sent = []
  current : s.current = none
  returned : s.returned = []

/-! ## 3. What a record does -/

/-- What a record handed on can change: queues, and the reply in the slot. -/
theorem handOn_slot (d : OpDevice) (r : Record) : ∃ ch reply text data valid,
    handOn d r.handed = { d with ch := ch, reply := reply, replyText := text, replyData := data,
                                 replyValid := valid } := by
  cases r with
  | frame ch status body =>
      obtain ⟨ch', e⟩ := absorbFrame_slot d (Record.frame ch status body).reply
      exact ⟨ch', d.reply, d.replyText, d.replyData, d.replyValid, e⟩
  | ok | error | info | pin | filter | config | periodic | fastInit | fiveBaud =>
      obtain ⟨reply, text, data, valid, e⟩ := stashReply_slot d (Record.reply _)
      exact ⟨d.ch, reply, text, data, valid, e⟩

/-! ## 4. The invariant -/

/-- The slot, the numbers and the answers in flight agree. -/
structure Matched (start : Nat) (s : Session) : Prop where
  next : s.dev.seqNext.toNat = nthNumber start s.numbered
  numbers : ∀ a ∈ s.issued, a.seq ≠ 0 → ∃ k < s.numbered, a.seq.toNat = nthNumber start k
  apart : ∀ a ∈ s.issued, ∀ b ∈ s.issued, a.seq ≠ 0 → a.seq = b.seq → a = b
  sent : ∀ p ∈ s.sent, p.1 ∈ s.issued ∧ p.1.seq ≠ 0 ∧ p.2.tail.getLast? = some p.1.seq
  idle : s.current = none → s.dev.cmdWaiting = false
  slot : ∀ a, s.current = some a → a ∈ s.issued ∧ s.dev.seqPending = a.seq ∧ s.dev.cmdVerb = a.verb
  pending : ∀ a, s.current = some a → a.Strict → s.dev.replyValid = true →
    ∃ r, (a, r) ∈ s.sent ∧ s.dev.reply = matchedReply r.reply
  returned : ∀ x ∈ s.returned, x.cmd.Strict → x.cmd.waits = true → x.status = .ok →
    ∃ r, (x.cmd, r) ∈ s.sent ∧ x.reply = some (matchedReply r.reply)

theorem matched_start {s : Session} (h : SessionStart s) : Matched s.dev.seqNext.toNat s := by
  obtain ⟨h1, h2, h3, h4, h5, h6⟩ := h
  have hn : s.numbered = 0 := by
    unfold Session.numbered
    rw [h3]
    rfl
  refine ⟨?_, ?_, ?_, ?_, fun _ => h2, ?_, ?_, ?_⟩
  · rw [hn, nthNumber_zero h1 s.dev.seqNext.toNat_lt]
  · intro a ha
    rw [h3] at ha
    exact absurd ha List.not_mem_nil
  · intro a ha
    rw [h3] at ha
    exact absurd ha List.not_mem_nil
  · intro p hp
    rw [h4] at hp
    exact absurd hp List.not_mem_nil
  · intro a ha
    rw [h5] at ha
    cases ha
  · intro a ha
    rw [h5] at ha
    cases ha
  · intro x hx
    rw [h6] at hx
    exact absurd hx List.not_mem_nil

/-- A record handed on that the strict command in the slot may not claim, or answers. -/
theorem matched_handOn {start : Nat} {s : Session} (h : Matched start s) (r : Record)
    (hr : ∀ a, s.current = some a → a.Strict → claims s.dev r.reply = true → r.isText = true →
      (a, r) ∈ s.sent) : Matched start { s with dev := handOn s.dev r.handed } := by
  obtain ⟨ch, reply, text, data, valid, e⟩ := handOn_slot s.dev r
  have hst := handOn_steady s.dev r.handed
  refine ⟨?_, h.numbers, h.apart, h.sent, ?_, ?_, ?_, h.returned⟩
  · exact (congrArg UInt32.toNat hst.seqNext).trans h.next
  · intro hc
    show (handOn s.dev r.handed).cmdWaiting = false
    rw [e]
    exact h.idle hc
  · intro a ha
    show a ∈ s.issued ∧ (handOn s.dev r.handed).seqPending = a.seq ∧
      (handOn s.dev r.handed).cmdVerb = a.verb
    rw [e]
    exact h.slot a ha
  · intro a ha hstrict hv
    obtain ⟨-, hseq, hverb⟩ := h.slot a ha
    have hs : s.dev.seqPending ≠ 0 := hseq ▸ hstrict.1
    have hy : s.dev.cmdVerb ≠ 0x79 := hverb ▸ hstrict.2.1
    have hw : s.dev.cmdVerb ≠ 0x77 := hverb ▸ hstrict.2.2
    change (handOn s.dev r.handed).replyValid = true at hv
    show ∃ r', (a, r') ∈ s.sent ∧ (handOn s.dev r.handed).reply = matchedReply r'.reply
    by_cases hf : ∃ ch status body, r = .frame ch status body
    · obtain ⟨ch', status, body, rfl⟩ := hf
      obtain ⟨ch'', e'⟩ := absorbFrame_slot s.dev (Record.frame ch' status body).reply
      have e'' : handOn s.dev (Record.frame ch' status body).handed =
        { s.dev with ch := ch'' } := e'
      rw [e''] at hv ⊢
      exact h.pending a ha hstrict hv
    have hrep : r.handed = .reply r.reply :=
      (r.reply_kind fun ch' status body e' => hf ⟨ch', status, body, e'⟩).2.2
    rw [hrep] at hv ⊢
    change (stashReply s.dev r.reply).replyValid = true at hv
    show ∃ r', (a, r') ∈ s.sent ∧ (stashReply s.dev r.reply).reply = matchedReply r'.reply
    cases hcl : claims s.dev r.reply with
    | false =>
        rw [stashReply_refused hcl] at hv ⊢
        exact h.pending a ha hstrict hv
    | true =>
        obtain ⟨k1, k2, -⟩ := claims_strict hs hy hw hcl
        have htext : r.isText = true := by
          cases r with
          | frame ch' status body => exact absurd ⟨ch', status, body, rfl⟩ hf
          | info spaces text => exact absurd rfl k2
          | fastInit ch' tail raw => exact absurd rfl k1
          | fiveBaud ch' tail => exact absurd rfl k1
          | ok | error | pin | filter | config | periodic => rfl
        exact ⟨r, hr a ha hstrict hcl htext, (stashReply_claimed hs hcl k1 k2).1⟩

/-- The number a text reply echoes is its last trailing token. -/
theorem Record.echoed_text {r : Record} (h : r.isText = true) :
    r.reply.echoed = r.tail.getLast? := by
  cases r with
  | frame | info | fastInit | fiveBaud => cases h
  | ok | error | pin | filter | config | periodic => rfl

theorem numberLine_cases (d : OpDevice) (line : Bytes) :
    ((numberLine d line).2.1 = 0 ∧ (numberLine d line).2.2 = d) ∨
      ((numberLine d line).2.1 = d.seqNext ∧ (numberLine d line).2.2 = (takeNumber d).2) := by
  unfold numberLine
  cases opCmdIsNumbered line with
  | true => exact Or.inr ⟨rfl, rfl⟩
  | false => exact Or.inl ⟨rfl, rfl⟩

/-- What `cmd_exchange` makes of a session: the slot is claimed for the new command. -/
def Session.issuing (s : Session) (a : Issued) (d : OpDevice) : Session :=
  { s with dev := claimSlot d a.waits a.seq a.verb, issued := a :: s.issued, current := some a }

theorem numbered_ati {s : Session} {a : Issued} (d : OpDevice) (h : a.seq = 0) :
    (s.issuing a d).numbered = s.numbered := by
  show ((a :: s.issued).filter fun b => b.seq != 0).length = _
  rw [List.filter_cons_of_neg (by rw [h]; decide)]
  rfl

theorem numbered_succ {s : Session} {a : Issued} (d : OpDevice) (h : a.seq ≠ 0) :
    (s.issuing a d).numbered = s.numbered + 1 := by
  show ((a :: s.issued).filter fun b => b.seq != 0).length = _
  rw [List.filter_cons_of_pos (p := fun b : Issued => b.seq != 0) (bne_iff_ne.mpr h)]
  rfl

section Issue

variable {start : Nat} {s : Session} (h : Matched start s) {a : Issued} {d : OpDevice}
include h

/-- The next number is no issued command's. -/
theorem Matched.unused (hbound : s.numbered < numberCount) : ∀ b ∈ s.issued, b.seq ≠ 0 →
    b.seq ≠ s.dev.seqNext := by
  intro b hb hb0 e
  obtain ⟨k, hk, hbk⟩ := h.numbers b hb hb0
  rw [e, h.next] at hbk
  exact nthNumber_inj hk (by omega) hbk.symm

/-- What an issue does besides the numbers: the slot is the new command's, and empty. -/
theorem Matched.issuing (hnext : (claimSlot d a.waits a.seq a.verb).seqNext.toNat =
      nthNumber start (s.issuing a d).numbered)
    (hnumbers : ∀ b ∈ a :: s.issued, b.seq ≠ 0 →
      ∃ k < (s.issuing a d).numbered, b.seq.toNat = nthNumber start k)
    (hapart : ∀ b ∈ a :: s.issued, ∀ b' ∈ a :: s.issued, b.seq ≠ 0 → b.seq = b'.seq → b = b') :
    Matched start (s.issuing a d) := by
  refine ⟨hnext, hnumbers, hapart, ?_, (fun e => (nomatch e)), ?_,
    fun b e _ hv => (nomatch hv), h.returned⟩
  · intro p hp
    obtain ⟨q1, q2, q3⟩ := h.sent p hp
    exact ⟨List.mem_cons_of_mem a q1, q2, q3⟩
  · intro b e
    cases e
    exact ⟨List.mem_cons_self, rfl, rfl⟩

/-- `ati` takes no number. -/
theorem Matched.issue_ati (ha : a.seq = 0) (hd : d.seqNext = s.dev.seqNext) :
    Matched start (s.issuing a d) := by
  refine h.issuing ?_ (?_) ?_
  · rw [numbered_ati d ha]
    exact (congrArg UInt32.toNat hd).trans h.next
  · intro b hb hb0
    rw [numbered_ati d ha]
    rcases List.mem_cons.mp hb with rfl | hb
    · exact absurd ha hb0
    · exact h.numbers b hb hb0
  · intro b hb b' hb' hb0 e
    rcases List.mem_cons.mp hb with rfl | hb
    · exact absurd ha hb0
    rcases List.mem_cons.mp hb' with rfl | hb'
    · exact absurd (e.trans ha) hb0
    · exact h.apart b hb b' hb' hb0 e

/-- Every other command takes the next one, which no command in the session has. -/
theorem Matched.issue_numbered (hbound : s.numbered < numberCount) (ha : a.seq = s.dev.seqNext)
    (hd : d.seqNext = (takeNumber s.dev).2.seqNext) : Matched start (s.issuing a d) := by
  have hn : a.seq.toNat = nthNumber start s.numbered := (congrArg UInt32.toNat ha).trans h.next
  have ha0 : a.seq ≠ 0 := by
    intro e
    have hge := nthNumber_ge start s.numbered
    rw [← hn, e] at hge
    exact absurd hge (by decide)
  have hunused := h.unused hbound
  refine h.issuing ?_ (?_) ?_
  · rw [numbered_succ d ha0]
    exact (congrArg UInt32.toNat hd).trans (takeNumber_next h.next)
  · intro b hb hb0
    rw [numbered_succ d ha0]
    rcases List.mem_cons.mp hb with rfl | hb
    · exact ⟨s.numbered, Nat.lt_succ_self _, hn⟩
    · obtain ⟨k, hk, hbk⟩ := h.numbers b hb hb0
      exact ⟨k, Nat.lt_succ_of_lt hk, hbk⟩
  · intro b hb b' hb' hb0 e
    rcases List.mem_cons.mp hb with rfl | hbs
    · rcases List.mem_cons.mp hb' with rfl | hbs'
      · rfl
      · exact absurd (e.symm.trans ha) (hunused b' hbs' (e ▸ hb0))
    rcases List.mem_cons.mp hb' with rfl | hbs'
    · exact absurd (e.trans ha) (hunused b hbs hb0)
    · exact h.apart b hbs b' hbs' hb0 e

end Issue

section Answered

variable {start : Nat} {s : Session} (h : Matched start s) {a : Issued}
include h

/-- An answer is sent. -/
theorem Matched.answer {r : Record} (ha : a ∈ s.issued) (ha0 : a.seq ≠ 0)
    (hlast : r.tail.getLast? = some a.seq) :
    Matched start { s with sent := (a, r) :: s.sent } := by
  have hsub : ∀ p, p ∈ s.sent → p ∈ (a, r) :: s.sent := fun p hp => List.mem_cons_of_mem _ hp
  refine ⟨h.next, h.numbers, h.apart, ?_, h.idle, h.slot, ?_,
    ?_⟩
  · intro p hp
    rcases List.mem_cons.mp hp with rfl | hp
    · exact ⟨ha, ha0, hlast⟩
    · exact h.sent p hp
  · intro b hb hstrict hv
    obtain ⟨r', hr', e⟩ := h.pending b hb hstrict hv
    exact ⟨r', hsub _ hr', e⟩
  · intro x hx hstrict hw hok
    obtain ⟨r', hr', e⟩ := h.returned x hx hstrict hw hok
    exact ⟨r', hsub _ hr', e⟩

/-- What the strict command in the slot may claim of a text reply carries its number. -/
theorem Matched.claimed (hcur : s.current = some a) (hstrict : a.Strict) {r : Record}
    (hcl : claims s.dev r.reply = true) (htext : r.isText = true) :
    r.tail.getLast? = some a.seq := by
  obtain ⟨-, hseq, hverb⟩ := h.slot a hcur
  obtain ⟨-, -, hecho⟩ := claims_strict (hseq ▸ hstrict.1) (hverb ▸ hstrict.2.1)
    (hverb ▸ hstrict.2.2) hcl
  rw [Record.echoed_text htext, hseq] at hecho
  exact hecho

/-- An answer arrives: what the slot may claim was sent for the command that waits. -/
theorem Matched.deliver {r : Record} (hr : (a, r) ∈ s.sent) :
    Matched start { s with dev := handOn s.dev r.handed } := by
  refine matched_handOn h r ?_
  intro b hb hstrict hcl htext
  obtain ⟨ha, ha0, hlast⟩ := h.sent (a, r) hr
  have e : a.seq = b.seq := Option.some.inj (hlast.symm.trans (h.claimed hb hstrict hcl htext))
  rw [h.apart a ha b (h.slot b hb).1 ha0 e] at hr
  exact hr

/-- The wait ends: it ends well only with a valid reply in the slot. -/
theorem Matched.collect (hcur : s.current = some a) :
    Matched start { s with
      dev := (collect s.dev).2.2.logged (a.txn .ok (collect s.dev).1 (collect s.dev).2.1)
      current := none
      returned := ⟨a, (collect s.dev).1, (collect s.dev).2.1⟩ :: s.returned } := by
  have hslot : (Openport.collect s.dev).2.2.seqNext = s.dev.seqNext ∧
      (Openport.collect s.dev).2.2.cmdWaiting = false := by
    unfold Openport.collect
    split
    · exact ⟨rfl, rfl⟩
    split
    · exact ⟨rfl, rfl⟩
    · exact ⟨rfl, rfl⟩
  refine ⟨(congrArg UInt32.toNat hslot.1).trans h.next, h.numbers, h.apart, h.sent,
    fun _ => hslot.2, (fun b e => (nomatch e)), (fun b e => (nomatch e)),
    ?_⟩
  intro x hx hstrict hw hok
  rcases List.mem_cons.mp hx with rfl | hx
  · change (Openport.collect s.dev).1 = .ok at hok
    show ∃ r, (a, r) ∈ s.sent ∧ (Openport.collect s.dev).2.1 = some (matchedReply r.reply)
    unfold Openport.collect at hok ⊢
    by_cases hv : s.dev.replyValid = true
    · obtain ⟨r, hr, e⟩ := h.pending a hcur hstrict hv
      rw [if_pos hv]
      exact ⟨r, hr, by rw [← e]⟩
    · rw [if_neg hv] at hok
      split at hok
      · cases hok
      · cases hok
  · exact h.returned x hx hstrict hw hok

end Answered

/-- **One step keeps the session matched**, as long as there are numbers left. -/
theorem matched_step {start : Nat} {s s' : Session} (h : Matched start s) (hstep : Step s s')
    (hbound : s'.numbered < numberCount) : Matched start s' := by
  cases hstep with
  | issue line payload timeoutMs waits a hcur hopen hlost ha =>
      have hseq : a.seq = (numberLine s.dev line).2.1 := congrArg Issued.seq ha
      have hwaits : a.waits = waits := congrArg Issued.waits ha
      subst hwaits
      rcases numberLine_cases s.dev line with ⟨h0, hd⟩ | ⟨h1, hd⟩
      · exact h.issue_ati (hseq.trans h0) (congrArg OpDevice.seqNext hd)
      · refine h.issue_numbered (Nat.lt_of_le_of_lt ?_ hbound) (hseq.trans h1)
          (congrArg OpDevice.seqNext hd)
        exact (List.Sublist.filter _ (List.sublist_cons_self a s.issued)).length_le
  | answer a r ha ha0 htext hlast => exact h.answer ha ha0 hlast
  | deliver a r hr => exact h.deliver hr
  | stray r hstray =>
      refine matched_handOn h r ?_
      intro b hb hstrict hcl htext
      exact absurd (h.claimed hb hstrict hcl htext) (hstray htext b (h.slot b hb).1 hstrict.1)
  | keep | gone =>
      exact ⟨h.next, h.numbers, h.apart, h.sent, h.idle, h.slot, h.pending, h.returned⟩
  | drop a st hcur hdrop =>
      refine ⟨h.next, h.numbers, h.apart, h.sent, fun _ => rfl, (fun b e => (nomatch e)),
        (fun b e => (nomatch e)), ?_⟩
      intro x hx hstrict hw hok
      rcases List.mem_cons.mp hx with rfl | hx
      · rcases hdrop with hd | hd
        · exact absurd hok hd
        · rw [hd] at hw
          cases hw
      · exact h.returned x hx hstrict hw hok
  | collect a hcur hwaits => exact h.collect hcur

/-- Steps issue commands and take none back. -/
theorem numbered_step {s s' : Session} (h : Step s s') : s.numbered ≤ s'.numbered := by
  cases h with
  | issue line payload timeoutMs waits a =>
      unfold Session.numbered
      exact (List.Sublist.filter _ (List.sublist_cons_self a s.issued)).length_le
  | answer | deliver | stray | keep | gone | drop | collect => exact Nat.le_refl _

/-- **A run keeps the session matched.** -/
theorem matched_run {s s' : Session} (hstart : SessionStart s) (hrun : Steps s s')
    (hbound : s'.numbered < numberCount) : Matched s.dev.seqNext.toNat s' := by
  induction hrun with
  | refl => exact matched_start hstart
  | tail _ hstep ih =>
      exact matched_step (ih (Nat.lt_of_le_of_lt (numbered_step hstep) hbound)) hstep hbound

/-- **A numbered command never receives another command's reply.** Whatever was delayed, lost,
    repeated or reordered: when a command that is no K-line init returns `OP_OK`, the reply it
    returns is one the device sent for that very command. -/
theorem reply_is_own {s s' : Session} (hstart : SessionStart s) (hrun : Steps s s')
    (hbound : s'.numbered < numberCount) (x : Returned) (hx : x ∈ s'.returned)
    (hstrict : x.cmd.Strict)
    (hwaits : x.cmd.waits = true) (hok : x.status = .ok) :
    ∃ r, (x.cmd, r) ∈ s'.sent ∧ x.reply = some (matchedReply r.reply) ∧
      ∀ a, (a, r) ∈ s'.sent → a = x.cmd := by
  have h := matched_run hstart hrun hbound
  obtain ⟨r, hr, e⟩ := h.returned x hx hstrict hwaits hok
  refine ⟨r, hr, e, ?_⟩
  intro a ha
  obtain ⟨h1, -, h3⟩ := h.sent (x.cmd, r) hr
  obtain ⟨g1, g2, g3⟩ := h.sent (a, r) ha
  exact h.apart a g1 x.cmd h1 g2 (Option.some.inj (g3.symm.trans h3))

/-- A session whose next number is 300. -/
def sampleSession : Session := { dev := { opened := true, seqNext := 300 } }

/-- A transmit without a wait, number 300, then a `atk` that waits, number 301: the late answer
    to the first arrives first and is not taken. -/
theorem reply_is_own_sample : ∃ s' x, Steps sampleSession s' ∧ x ∈ s'.returned ∧ x.cmd.seq = 301 ∧
    x.status = .ok ∧ ∃ r, (x.cmd, r) ∈ s'.sent ∧ x.reply = some (matchedReply r.reply) ∧
      ∀ a, (a, r) ∈ s'.sent → a = x.cmd := by
  have h1 := Relation.ReflTransGen.refl.tail
    (Step.issue sampleSession (opCmdTransmit 6 1 0 0) [7] 1000 false _ rfl rfl rfl rfl)
  have h2 := h1.tail (.drop _ _ .ok rfl (Or.inr rfl))
  have h3 := h2.tail (.issue _ (opCmdStopFilter 6 0) [] 1000 true _ rfl rfl rfl rfl)
  have h4 := h3.tail (.answer _ _ (.error 1 [300]) (List.mem_cons_of_mem _ List.mem_cons_self)
    (by decide) rfl rfl)
  have h5 := h4.tail (.answer _ _ (.ok [301]) List.mem_cons_self (by decide) rfl rfl)
  have h6 := h5.tail (.deliver _ _ _ (List.mem_cons_of_mem _ List.mem_cons_self))
  have h7 := h6.tail (.deliver _ _ _ List.mem_cons_self)
  have h8 := h7.tail (.collect _ _ rfl rfl)
  exact ⟨_, _, h8, List.mem_cons_self, by decide, by decide,
    reply_is_own ⟨by decide, rfl, rfl, rfl, rfl, rfl⟩ h8 (by decide) _ List.mem_cons_self
      ⟨by decide, by decide, by decide⟩ rfl (by decide)⟩

/-! ## 5. A transaction is a run of steps -/

/-- What the reads of these arrivals hand on are answers the device has sent, or strays. -/
def Carries (issued : List Issued) (sent : List (Issued × Record)) :
    OpDevice → List Arrival → Prop
  | _, [] => True
  | d, .gone :: as => Carries issued sent (arrive d .gone) as
  | d, .read tmp :: as =>
    (∀ h ∈ (readerRead d.accum tmp).1, ∃ r : Record,
      h = r.handed ∧ ((∃ a, (a, r) ∈ sent) ∨ r.Stray issued)) ∧
    Carries issued sent (arrive d (.read tmp)) as

theorem Carries.append_left {issued : List Issued} {sent : List (Issued × Record)}
    {as bs : List Arrival} :
    ∀ {d : OpDevice}, Carries issued sent d (as ++ bs) → Carries issued sent d as := by
  induction as with
  | nil => exact fun _ => trivial
  | cons a as ih =>
      intro d h
      cases a with
      | read tmp => exact ⟨h.1, ih h.2⟩
      | gone => exact ih (d := arrive d .gone) h

theorem Carries.append_right {issued : List Issued} {sent : List (Issued × Record)}
    {as bs : List Arrival} : ∀ {d : OpDevice},
    Carries issued sent d (as ++ bs) → Carries issued sent (arrivals d as) bs := by
  induction as with
  | nil => exact fun h => h
  | cons a as ih =>
      intro d h
      cases a with
      | read tmp => exact ih (d := arrive d (.read tmp)) h.2
      | gone => exact ih (d := arrive d .gone) h

theorem handAll_steps (hs : List Handed) (s : Session) (h : ∀ x ∈ hs, ∃ r : Record,
    x = r.handed ∧ ((∃ a, (a, r) ∈ s.sent) ∨ r.Stray s.issued)) :
    Steps s { s with dev := hs.foldl handOn s.dev } := by
  induction hs generalizing s with
  | nil => exact Relation.ReflTransGen.refl
  | cons x hs ih =>
      obtain ⟨r, rfl, hr⟩ := h x List.mem_cons_self
      have hstep : Step s { s with dev := handOn s.dev r.handed } := by
        rcases hr with ⟨a, ha⟩ | hr
        · exact .deliver s a r ha
        · exact .stray s r hr
      exact .head hstep (ih { s with dev := handOn s.dev r.handed } fun y hy =>
        h y (List.mem_cons_of_mem _ hy))

theorem arrivals_steps (as : List Arrival) (s : Session) (h : Carries s.issued s.sent s.dev as) :
    Steps s { s with dev := arrivals s.dev as } := by
  induction as generalizing s with
  | nil => exact Relation.ReflTransGen.refl
  | cons a as ih =>
      cases a with
      | read tmp =>
          refine .trans ?_ (ih { s with dev := arrive s.dev (.read tmp) } h.2)
          by_cases hl : s.dev.lost = true
          · have e : arrive s.dev (.read tmp) = s.dev := if_pos hl
            rw [e]
          · have e : arrive s.dev (.read tmp) = (readerRead s.dev.accum tmp).1.foldl handOn
                { s.dev with accum := (readerRead s.dev.accum tmp).2 } := if_neg hl
            rw [e]
            exact .head (.keep s (readerRead s.dev.accum tmp).2) (handAll_steps _ _ h.1)
      | gone => exact .head (.gone s) (ih { s with dev := arrive s.dev .gone } h)

/-- The device answers a command it was sent any number of times. -/
theorem answers_steps (a : Issued) (rs : List Record) (s : Session) (ha : a ∈ s.issued)
    (h : ∀ r ∈ rs, a.seq ≠ 0 ∧ r.isText = true ∧ r.tail.getLast? = some a.seq) :
    Steps s { s with sent := (rs.map fun r => (a, r)) ++ s.sent } := by
  induction rs with
  | nil => exact Relation.ReflTransGen.refl
  | cons r rs ih =>
      obtain ⟨h1, h2, h3⟩ := h r List.mem_cons_self
      exact .tail (ih fun q hq => h q (List.mem_cons_of_mem _ hq)) (.answer _ a r ha h1 h2 h3)

/-- **`cmd_exchange` is a run of steps.** Whatever arrives around it is an answer the device has
    sent, an answer to this very command, or a stray; the session it leaves is the one the steps
    lead to, and what it returned is entered there. -/
theorem exchange_steps (s : Session) (x : Exchange) (body payload : Bytes) (timeoutMs : UInt32)
    (waits : Bool) (answers : List Record) (a : Issued) (hcur : s.current = none)
    (hbefore : Carries s.issued s.sent s.dev x.before)
    (ha : a = { s with dev := arrivals s.dev x.before }.next (body ++ [0x0d, 0x0a]) payload
      (if timeoutMs = 0 then 1000 else timeoutMs) waits)
    (hans : ∀ r ∈ answers, a.seq ≠ 0 ∧ r.isText = true ∧ r.tail.getLast? = some a.seq)
    (hafter : Carries (a :: s.issued) ((answers.map fun r => (a, r)) ++ s.sent)
      (claimSlot (numberLine (arrivals s.dev x.before) (body ++ [0x0d, 0x0a])).2.2
        waits a.seq a.verb)
      (x.early ++ x.late))
    (res : OpStatus × Option OpReply × OpDevice)
    (hres : res = cmdExchange x s.dev (body ++ [0x0d, 0x0a]) payload timeoutMs waits) :
    ∃ s', Steps s s' ∧ s'.current = none ∧ s'.dev = res.2.2 ∧
      (s'.returned = s.returned ∨ s'.returned = ⟨a, res.1, res.2.1⟩ :: s.returned) := by
  unfold cmdExchange at hres
  by_cases hbad : body ++ [0x0d, 0x0a] = [] ∨ opCmdMax ≤ (body ++ [0x0d, 0x0a]).length ∨
      opMsgMax < payload.length
  · rw [if_pos hbad] at hres
    exact ⟨s, .refl, hcur, by rw [hres], Or.inl rfl⟩
  rw [if_neg hbad] at hres
  have hshort : (body ++ [0x0d, 0x0a]).length < opCmdMax := by
    refine Nat.lt_of_not_le fun h => hbad (Or.inr (Or.inl h))
  simp only at hres
  have hpre := arrivals_steps x.before s hbefore
  generalize hd1 : arrivals s.dev x.before = d1 at ha hafter hpre hres
  by_cases hopen : (!d1.opened || d1.lost) = true
  · rw [if_pos hopen] at hres
    exact ⟨{ s with dev := d1 }, hpre, hcur, by rw [hres], Or.inl rfl⟩
  rw [if_neg hopen, if_neg (numberLine_ne_nil d1 hshort)] at hres
  have hopen' : d1.opened = true ∧ d1.lost = false := by simpa using hopen
  have hissue := Step.issue { s with dev := d1 } (body ++ [0x0d, 0x0a]) payload
    (if timeoutMs = 0 then 1000 else timeoutMs) waits a hcur hopen'.1 hopen'.2 ha
  have hanswer := answers_steps a answers
    { s with
      dev := claimSlot (numberLine d1 (body ++ [0x0d, 0x0a])).2.2 waits a.seq a.verb
      issued := a :: s.issued, current := some a } List.mem_cons_self hans
  have hearly := arrivals_steps x.early
    { s with
      dev := claimSlot (numberLine d1 (body ++ [0x0d, 0x0a])).2.2 waits a.seq a.verb
      issued := a :: s.issued, current := some a
      sent := (answers.map fun r => (a, r)) ++ s.sent } hafter.append_left
  have hrun := (hpre.tail hissue).trans (hanswer.trans hearly)
  have hclaim : claimSlot (numberLine d1 (body ++ [0x0d, 0x0a])).2.2 waits
      (numberLine d1 (body ++ [0x0d, 0x0a])).2.1
        ((numberLine d1 (body ++ [0x0d, 0x0a])).1.getD 2 0) =
      claimSlot (numberLine d1 (body ++ [0x0d, 0x0a])).2.2 waits a.seq a.verb := by
    rw [ha]
    rfl
  unfold transact at hres
  rw [hclaim] at hres
  simp only at hres
  by_cases hdrop : x.written ≠ .ok ∨ (!waits) = true
  · rw [if_pos hdrop] at hres
    have hdrop' : x.written ≠ .ok ∨ a.waits = false := by
      rcases hdrop with h | h
      · exact Or.inl h
      · exact Or.inr ((congrArg Issued.waits ha).trans (show waits = false by simpa using h))
    refine ⟨_, hrun.tail (.drop _ a x.written rfl hdrop'), rfl, ?_, Or.inr ?_⟩
    · rw [hres, ha]
      rfl
    · rw [hres]
  · rw [if_neg hdrop] at hres
    have hwaits : a.waits = true :=
      (congrArg Issued.waits ha).trans (show waits = true by simpa using fun h => hdrop (Or.inr h))
    have hlate := arrivals_steps x.late
      { s with
        dev := arrivals (claimSlot (numberLine d1 (body ++ [0x0d, 0x0a])).2.2 waits a.seq
          a.verb) x.early
        issued := a :: s.issued, current := some a
        sent := (answers.map fun r => (a, r)) ++ s.sent } hafter.append_right
    have hwr : x.written = .ok := Classical.byContradiction fun h => hdrop (Or.inl h)
    refine ⟨_, (hrun.trans hlate).tail (.collect _ a rfl hwaits), rfl, ?_, Or.inr ?_⟩
    · rw [hres, ha, hwr]
      rfl
    · rw [hres]

/-- A session `op_device_open` starts is a session before its first command. -/
theorem freshSession_start (d : OpDevice) (clock : Timeval) (hs : 0 ≤ clock.sec)
    (hu : 0 ≤ clock.usec) :
    SessionStart { dev := { freshSession d clock with opened := true } } := by
  exact ⟨firstNumber_ge hs hu, rfl, rfl, rfl, rfl, rfl⟩

end Openport
