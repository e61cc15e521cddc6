/-
  File:      Openport/Device/Transaction.lean
  Subject:   What one command transaction does to the device: it numbers its line,
             enters itself into the log, and leaves everything an entry point
             decides by as it was.

  `cmdExchange_cases` is the only fact about `cmd_exchange` the proofs about
  entry points use.
-/
import Openport.Device.Slot
import Openport.Proto.Splitter

namespace Openport

open Lib.Decimal

/-! ## 1. What a command leaves -/

/-- What a command leaves as it was: `Steady` without the number, which stays out of the reach of
    short replies, and the log. -/
structure Kept (d d' : OpDevice) : Prop where
  numbers : 256 ≤ d.seqNext.toNat → 256 ≤ d'.seqNext.toNat
  opened : d'.opened = d.opened
  pinsGrounded : d'.pinsGrounded = d.pinsGrounded
  pinsPowered : d'.pinsPowered = d.pinsPowered
  fwVersion : d'.fwVersion = d.fwVersion
  isOpen : ∀ i, (d'.ch i).isOpen = (d.ch i).isOpen
  protocol : ∀ i, (d'.ch i).protocol = (d.ch i).protocol
  periodic : ∀ i, (d'.ch i).periodic = (d.ch i).periodic

theorem Kept.refl (d : OpDevice) : Kept d d :=
  ⟨fun h => h, rfl, rfl, rfl, rfl, fun _ => rfl, fun _ => rfl, fun _ => rfl⟩

theorem Kept.trans {d d' d'' : OpDevice} (h : Kept d d') (h' : Kept d' d'') : Kept d d'' :=
  ⟨fun hn => h'.numbers (h.numbers hn), h'.opened.trans h.opened,
    h'.pinsGrounded.trans h.pinsGrounded,
    h'.pinsPowered.trans h.pinsPowered, h'.fwVersion.trans h.fwVersion,
    fun i => (h'.isOpen i).trans (h.isOpen i), fun i => (h'.protocol i).trans (h.protocol i),
    fun i => (h'.periodic i).trans (h.periodic i)⟩

theorem Steady.kept {d d' : OpDevice} (h : Steady d d') : Kept d d' :=
  ⟨fun hn => by rw [h.seqNext]; exact hn,
    h.opened, h.pinsGrounded, h.pinsPowered, h.fwVersion, h.isOpen,
    h.protocol, h.periodic⟩

/-- The number behind a number is none of the short ones. -/
theorem takeNumber_ge (d : OpDevice) : 256 ≤ (takeNumber d).2.seqNext.toNat := by
  show 256 ≤ (if d.seqNext + 1 < 256 then (256 : UInt32) else d.seqNext + 1).toNat
  split
  · exact Nat.le_refl 256
  · rename_i h
    exact Nat.le_of_not_lt fun hlt => h (UInt32.lt_iff_toNat_lt.mpr hlt)

/-- Nor is the first number of a session, where the clock is not before its epoch. -/
theorem firstNumber_ge {clock : Timeval} (hs : 0 ≤ clock.sec) (hu : 0 ≤ clock.usec) :
    256 ≤ (firstNumber clock).toNat := by
  unfold firstNumber
  have hms : 0 ≤ clock.sec * 1000 + clock.usec.tdiv 1000 := by
    have := Int.tdiv_nonneg hu (show (0 : Int) ≤ 1000 by decide)
    omega
  obtain ⟨n, hn⟩ := Int.eq_ofNat_of_zero_le hms
  rw [hn]
  have hmod : ((n : Int).tmod 900000) = ((n % 900000 : Nat) : Int) := rfl
  rw [hmod]
  have hlt : n % 900000 < 900000 := Nat.mod_lt _ (by decide)
  have hof : (UInt32.ofInt ((n % 900000 : Nat) : Int)).toNat = n % 900000 := by
    show (UInt32.ofNat (((n % 900000 : Nat) : Int) % 2 ^ 32).toNat).toNat = n % 900000
    have hself : (((n % 900000 : Nat) : Int) % 2 ^ 32).toNat = n % 900000 := by omega
    rw [hself]
    exact UInt32.toNat_ofNat_of_lt' (Nat.lt_trans hlt (by decide))
  rw [UInt32.toNat_add, hof]
  have h256 : (256 : UInt32).toNat = 256 := rfl
  omega

theorem numberLine_kept (d : OpDevice) (line : Bytes) :
    Kept d (numberLine d line).2.2 ∧ (numberLine d line).2.2.log = d.log := by
  unfold numberLine
  cases opCmdIsNumbered line with
  | true =>
      exact ⟨⟨fun _ => takeNumber_ge d, rfl, rfl, rfl, rfl, fun _ => rfl, fun _ => rfl,
        fun _ => rfl⟩, rfl⟩
  | false => exact ⟨Kept.refl d, rfl⟩

/-- A line that ends in CR LF and fits its buffer leaves room for its number. -/
theorem opCmdNumber_room {body : Bytes} (hshort : (body ++ [0x0d, 0x0a]).length < opCmdMax)
    (htwo : 2 ≤ body.length) (seq : UInt32) :
    opCmdNumber (body ++ [0x0d, 0x0a]) numberedMax seq ≠ [] := by
  have hlen : (body ++ [0x0d, 0x0a]).length - 2 = body.length := by
    rw [List.length_append]
    exact Nat.add_sub_cancel _ _
  have hdig : (decimal seq.toNat).length ≤ 10 :=
    decimal_length_le (by decide) (Nat.lt_trans seq.toNat_lt (by decide))
  rw [List.length_append] at hshort
  have hl64 : body.length + 2 < 64 := hshort
  unfold opCmdNumber
  simp only [hlen, List.drop_left, List.take_left]
  rw [if_neg]
  · exact List.append_ne_nil_of_right_ne_nil _ (by decide)
  rintro (h | h | h)
  · rw [List.length_append] at h
    exact absurd h (by simp; omega)
  · exact h rfl
  · have h80 : numberedMax = 80 := rfl
    rw [List.length_cons, h80] at h
    omega

/-- A command line always has room for its number. -/
theorem numberLine_ne_nil (d : OpDevice) {body : Bytes}
    (hshort : (body ++ [0x0d, 0x0a]).length < opCmdMax) :
    (numberLine d (body ++ [0x0d, 0x0a])).1 ≠ [] := by
  unfold numberLine
  by_cases hn : opCmdIsNumbered (body ++ [0x0d, 0x0a]) = true
  · rw [if_pos hn]
    show opCmdNumber (body ++ [0x0d, 0x0a]) numberedMax d.seqNext ≠ []
    -- a line with a number has at least its verb before the CR LF
    have htwo : 2 ≤ body.length := by
      match body, hn with
      | [], hn => cases hn
      | [_], hn => exact absurd hn (by simp [opCmdIsNumbered])
      | _ :: _ :: _, _ => exact Nat.le_add_left 2 _
    exact opCmdNumber_room hshort htwo d.seqNext
  · rw [if_neg hn]
    exact List.append_ne_nil_of_right_ne_nil _ (by decide)

/-! ## 2. The written command -/

/-- What is known of a transaction's outcome: without a wait it is the write's; a wait ends well
    exactly with a reply, after a write that went well. -/
structure Txn.Settled (t : Txn) : Prop where
  reply : t.reply.isSome = true ↔ t.waited = true ∧ t.result = .ok
  written : t.waited = true → t.result = .ok → t.written = .ok
  unwaited : t.waited = false → t.result = t.written
  /-- a numbered command that is no init is answered by its number -/
  own : t.seq ≠ 0 → t.line.getD 2 0 ≠ 0x79 → t.line.getD 2 0 ≠ 0x77 → ∀ r, t.reply = some r →
    r.kind ≠ .init ∧ r.kind ≠ .info ∧ r.echoed = some t.seq

/-- The end of a wait. -/
theorem collect_spec (d : OpDevice) : Steady d (collect d).2.2 ∧
    ((collect d).2.1.isSome = true ↔ (collect d).1 = .ok) ∧
    ∀ r, (collect d).2.1 = some r → d.replyValid = true ∧ d.reply = r := by
  unfold collect
  by_cases hv : d.replyValid = true
  · rw [if_pos hv]
    refine ⟨steady_of_eq rfl rfl rfl rfl rfl rfl rfl, ⟨fun _ => rfl, fun _ => rfl⟩, ?_⟩
    intro r e
    exact ⟨hv, Option.some.inj e⟩
  · rw [if_neg hv]
    by_cases hl : (!d.opened || d.lost) = true
    · rw [if_pos hl]
      exact ⟨steady_of_eq rfl rfl rfl rfl rfl rfl rfl, ⟨fun e => (nomatch e), fun e => (nomatch e)⟩,
        fun r e => (nomatch e)⟩
    · rw [if_neg hl]
      exact ⟨steady_of_eq rfl rfl rfl rfl rfl rfl rfl, ⟨fun e => (nomatch e), fun e => (nomatch e)⟩,
        fun r e => (nomatch e)⟩

/-- **A transaction enters itself into the log and keeps the rest.** -/
theorem transact_spec (x : Exchange) (d : OpDevice) (line payload : Bytes) (seq : UInt32)
    (timeoutMs : UInt32) (wait : Bool) :
    Kept d (transact x d line payload seq timeoutMs wait).2.2 ∧
    ∃ t : Txn, (transact x d line payload seq timeoutMs wait).2.2.log = .txn t :: d.log ∧
      t.line = line ∧ t.payload = payload ∧ t.seq = seq ∧ t.waited = wait ∧
        t.timeoutMs = timeoutMs ∧
      t.written = x.written ∧ t.result = (transact x d line payload seq timeoutMs wait).1 ∧
      t.reply = (transact x d line payload seq timeoutMs wait).2.1 ∧ t.Settled := by
  have hclaim : Steady d (claimSlot d wait seq (line.getD 2 0)) :=
    steady_of_eq rfl rfl rfl rfl rfl rfl rfl
  have hearly := hclaim.trans (arrivals_steady (claimSlot d wait seq (line.getD 2 0)) x.early)
  unfold transact
  simp only
  by_cases hdrop : x.written ≠ .ok ∨ (!wait) = true
  · rw [if_pos hdrop]
    have hkept : Kept d { arrivals (claimSlot d wait seq (line.getD 2 0)) x.early
      with cmdWaiting := false } :=
      hearly.kept.trans ⟨fun h => h, rfl, rfl, rfl, rfl, fun _ => rfl, fun _ => rfl, fun _ => rfl⟩
    refine ⟨⟨hkept.numbers, hkept.opened, hkept.pinsGrounded, hkept.pinsPowered,
      hkept.fwVersion, hkept.isOpen,
      hkept.protocol, hkept.periodic⟩, _, congrArg (_ :: ·) hearly.log, rfl, rfl, rfl, rfl,
        rfl, rfl, rfl,
      rfl, ?_⟩
    refine ⟨⟨fun e => (nomatch e), ?_⟩, ?_, fun _ => rfl, fun _ _ _ r e => (nomatch e)⟩
    · rintro ⟨hw, hok⟩
      rcases hdrop with h | h
      · exact absurd hok h
      · rw [show wait = true from hw] at h
        cases h
    · exact fun _ hok => hok
  · rw [if_neg hdrop]
    have hok : x.written = .ok := Classical.byContradiction fun h => hdrop (Or.inl h)
    have hwait : wait = true := by simpa using fun h => hdrop (Or.inr h)
    obtain ⟨hst, hiff, hown⟩ := collect_spec
      (arrivals (arrivals (claimSlot d wait seq (line.getD 2 0)) x.early) x.late)
    have hall := (hearly.trans (arrivals_steady _ x.late)).trans hst
    have hkept := hall.kept
    refine ⟨⟨hkept.numbers, hkept.opened, hkept.pinsGrounded, hkept.pinsPowered,
      hkept.fwVersion, hkept.isOpen,
      hkept.protocol, hkept.periodic⟩, _, congrArg (_ :: ·) hall.log, rfl, rfl, rfl, rfl,
        rfl, rfl, rfl,
      rfl, ?_⟩
    refine ⟨⟨fun e => ⟨hwait, hiff.mp e⟩, fun e => hiff.mpr e.2⟩, fun _ _ => hok, ?_, ?_⟩
    · intro h
      rw [show wait = false from h] at hwait
      cases hwait
    · intro hs hy hw r hr
      have hslot : OwnSlot seq (line.getD 2 0) (claimSlot d wait seq (line.getD 2 0)) :=
        ⟨rfl, rfl, fun e => (nomatch e)⟩
      have hlate := ownSlot_arrivals hs hy hw (ownSlot_arrivals hs hy hw hslot x.early) x.late
      obtain ⟨hv, he⟩ := hown r hr
      have := hlate.own hv
      rwa [he] at this

/-- The transaction `cmd_exchange` runs for a line: numbered as the device stands, and settled. -/
structure Ran (x : Exchange) (d : OpDevice) (line payload : Bytes)
    (timeoutMs : UInt32) (wait : Bool)
    (r : OpStatus × Option OpReply × OpDevice) (t : Txn) : Prop where
  log : r.2.2.log = .txn t :: d.log
  numbered : ∃ d', d'.seqNext = d.seqNext ∧ t.line = (numberLine d' line).1 ∧
    t.seq = (numberLine d' line).2.1
  lineNonempty : t.line ≠ []
  payload : t.payload = payload
  waited : t.waited = wait
  timeoutMs : t.timeoutMs = if timeoutMs = 0 then 1000 else timeoutMs
  written : t.written = x.written
  result : t.result = r.1
  reply : t.reply = r.2.1
  settled : t.Settled

/-- **What `cmd_exchange` does**: it refuses before anything is written, or runs one transaction. -/
theorem cmdExchange_cases (x : Exchange) (d : OpDevice) (line payload : Bytes) (timeoutMs : UInt32)
    (wait : Bool) : Kept d (cmdExchange x d line payload timeoutMs wait).2.2 ∧
    (((cmdExchange x d line payload timeoutMs wait).2.2.log = d.log ∧
        (cmdExchange x d line payload timeoutMs wait).1 ≠ .ok ∧
        (cmdExchange x d line payload timeoutMs wait).2.1 = none) ∨
      ∃ t, Ran x d line payload timeoutMs wait
        (cmdExchange x d line payload timeoutMs wait) t) := by
  unfold cmdExchange
  split
  · exact ⟨Kept.refl d, Or.inl ⟨rfl, fun e => (nomatch e), rfl⟩⟩
  have hb := arrivals_steady d x.before
  simp only
  split
  · exact ⟨hb.kept, Or.inl ⟨hb.log, fun e => (nomatch e), rfl⟩⟩
  obtain ⟨hn, hnl⟩ := numberLine_kept (arrivals d x.before) line
  by_cases hnil : (numberLine (arrivals d x.before) line).1 = []
  · rw [if_pos hnil]
    exact ⟨hb.kept.trans hn, Or.inl ⟨hnl.trans hb.log, fun e => (nomatch e), rfl⟩⟩
  · rw [if_neg hnil]
    obtain ⟨hk, t, hlog, h1, h2, h3, h4, h5, h6, h7, h8, h9⟩ := transact_spec x
      (numberLine (arrivals d x.before) line).2.2 (numberLine (arrivals d x.before) line).1 payload
      (numberLine (arrivals d x.before) line).2.1 (if timeoutMs = 0 then 1000 else timeoutMs) wait
    refine ⟨(hb.kept.trans hn).trans hk, Or.inr ⟨t, ?_⟩⟩
    exact ⟨by rw [hlog, hnl, hb.log],
      ⟨_, hb.seqNext, h1, h3⟩, by rw [h1]; exact hnil, h2, h4, h5, h6, h7, h8, h9⟩

/-! ## 3. The command on the wire -/

theorem emit_ne_nil {s : Bytes} (h : emit s ≠ []) : emit s = s := by
  unfold emit at h ⊢
  split at h
  · exact absurd rfl h
  · rename_i hs
    rw [if_neg hs]

section Ran

variable {x : Exchange} {d : OpDevice} {payload : Bytes} {timeoutMs : UInt32} {wait : Bool}
  {r : OpStatus × Option OpReply × OpDevice} {t : Txn} {c : Command}

/-- **The line of a transaction is the command it was printed from, with its number.** -/
theorem Ran.line (hv : c.verb ≠ 0) (h : Ran x d c.line payload timeoutMs wait r t) :
    t.line = (c.issued t.seq).line := by
  obtain ⟨d', -, hline, hseq⟩ := h.numbered
  have hnum : opCmdIsNumbered c.line = (c.verb != 0 && c.verb != 0x69) := rfl
  unfold numberLine at hline hseq
  unfold Command.issued
  by_cases hi : c.verb = 0x69
  · have hno : opCmdIsNumbered c.line = false := by
      rw [hnum, hi]
      rfl
    rw [hno] at hline
    rw [if_pos hi]
    exact hline
  · have hyes : opCmdIsNumbered c.line = true := by
      rw [hnum]
      simp [hv, hi]
    rw [hyes] at hline hseq
    have hs : t.seq = (takeNumber d').1 := hseq
    have hl : t.line = opCmdNumber c.line numberedMax (takeNumber d').1 := hline
    have hne := h.lineNonempty
    rw [hl] at hne
    rw [if_neg hi, hl, hs]
    exact opCmdNumber_line c hne

/-- The number of a numbered command is the session's next. -/
theorem Ran.seq (hv : c.verb ≠ 0) (hi : c.verb ≠ 0x69)
    (h : Ran x d c.line payload timeoutMs wait r t) :
    t.seq = d.seqNext := by
  obtain ⟨d', hd, -, hseq⟩ := h.numbered
  have hyes : opCmdIsNumbered c.line = true := by
    show (c.verb != 0 && c.verb != 0x69) = true
    simp [hv, hi]
  unfold numberLine at hseq
  rw [hyes] at hseq
  rw [← hd]
  exact hseq

/-- An empty line is refused before anything is written. -/
theorem Ran.nonempty {line : Bytes} (h : Ran x d line payload timeoutMs wait r t) : line ≠ [] := by
  rintro rfl
  obtain ⟨d', -, hline, -⟩ := h.numbered
  exact h.lineNonempty hline

end Ran

end Openport
