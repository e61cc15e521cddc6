/-
  File:      Openport/Device/Lines.lean
  Subject:   The reply lines the reader takes, each with its bytes, and which of them
             a waiting command is given.

  What `consume_accum` hands on is the decoded reply; a `Line` keeps the bytes it was
  decoded from beside it. A numbered command that is no init is given the last line
  that `stash_reply` takes for its own (`slot_arrivals`).
-/
import Openport.Device.Heard
import Openport.Proto.Trailing

namespace Openport

open Lib.Framing

/-! ## 1. Lines -/

/-- A reply that was handed to `stash_reply`, and the bytes it was decoded from. -/
structure Line where
  reply : OpReply
  bytes : Bytes
  deriving DecidableEq, Repr

/-- One turn of the loop in `consume_accum`, with the bytes of the reply it decodes. -/
def takeStep (buf : Bytes) : Option ((Handed × Bytes) × Bytes) :=
  (consumeStep buf).map fun p => ((p.1, buf.take (opParse buf).1), p.2)

/-- Where a reply is handed on, its line. -/
def lineOf : Handed × Bytes → Option Line
  | (.reply r, bytes) => some ⟨r, bytes⟩
  | _ => none

/-- The lines one read of the reader completes. -/
def linesRead (accum tmp : Bytes) : List Line :=
  (drain takeStep (accum ++ tmp.take (opAccumCap - accum.length))).1.filterMap lineOf

/-- The lines the reader hands on while this arrives. -/
def linesHeard : OpDevice → List Arrival → List Line
  | _, [] => []
  | d, .gone :: as => linesHeard (arrive d .gone) as
  | d, .read tmp :: as =>
    (if d.lost then [] else linesRead d.accum tmp) ++ linesHeard (arrive d (.read tmp)) as

theorem linesHeard_read (d : OpDevice) (tmp : Bytes) (as : List Arrival) :
    linesHeard d (.read tmp :: as) =
      (if d.lost then [] else linesRead d.accum tmp) ++ linesHeard (arrive d (.read tmp)) as := by
  rw [linesHeard]

/-- The driver takes the line for the answer to the command with this number. -/
def Line.echoes (seq : UInt32) (l : Line) : Bool :=
  l.reply.kind != .init && l.reply.kind != .info && l.reply.echoed == some seq

/-- The last line that the driver takes for the answer. -/
def lastEcho (seq : UInt32) (ls : List Line) : Option Line := (ls.filter (·.echoes seq)).getLast?

/-- The line answers the command with this number and reports no error: its last number is the
    command's. -/
def Line.Acknowledges (seq : UInt32) (l : Line) : Prop :=
  l.reply.kind ≠ .error ∧ l.reply.kind ≠ .init ∧ l.reply.kind ≠ .info ∧
    (trailing l.bytes).getLast? = some seq.toNat

/-! ## 2. What a line's reply keeps of it -/

theorem takeStep_shrinks : Shrinks takeStep := by
  intro s i rest h
  obtain ⟨p, hp, he⟩ := Option.map_eq_some_iff.mp h
  cases he
  exact consumeStep_shrinks s p.1 p.2 hp

/-- The loop takes the same with the bytes noted. -/
theorem drain_takeStep (s : Bytes) : (drain takeStep s).1.map Prod.fst = (drain consumeStep s).1 := by
  induction hn : s.length using Nat.strongRecOn generalizing s with
  | ind n ih =>
      cases h : consumeStep s with
      | none =>
          have ht : takeStep s = none := by rw [takeStep, h]; rfl
          rw [drain_wait takeStep_shrinks ht, drain_wait consumeStep_shrinks h]
          rfl
      | some p =>
          have ht : takeStep s = some ((p.1, s.take (opParse s).1), p.2) := by
            rw [takeStep, h]
            rfl
          rw [drain_item takeStep_shrinks ht, drain_item consumeStep_shrinks h, List.map_cons,
            ih p.2.length (hn ▸ consumeStep_shrinks s p.1 p.2 h) p.2 rfl]

/-- The reply keeps the first eight of the numbers its line ends with. -/
def Line.Kept (l : Line) : Prop :=
  l.reply.kind.tailed = true → l.reply.tail = ((trailing l.bytes).map held).take tailMax

theorem takeStep_kept {buf rest bytes : Bytes} {r : OpReply}
    (h : takeStep buf = some ((.reply r, bytes), rest)) : Line.Kept ⟨r, bytes⟩ := by
  obtain ⟨p, hp, he⟩ := Option.map_eq_some_iff.mp h
  obtain ⟨h1, rfl⟩ := Prod.mk.inj he
  obtain ⟨h2, rfl⟩ := Prod.mk.inj h1
  intro ht
  unfold consumeStep at hp
  simp only at hp
  by_cases h0 : (opParse buf).1 = 0
  · rw [if_pos h0] at hp
    cases hp
  rw [if_neg h0] at hp
  have hr : (opParse buf).2 = r := by
    split at hp <;> cases hp <;> cases h2
    rfl
  subst hr
  exact opParse_tail h0 ht

theorem linesRead_kept (accum tmp : Bytes) : ∀ l ∈ linesRead accum tmp, l.Kept := by
  unfold linesRead
  generalize accum ++ tmp.take (opAccumCap - accum.length) = s
  induction hn : s.length using Nat.strongRecOn generalizing s with
  | ind n ih =>
      intro l hl
      cases h : takeStep s with
      | none =>
          rw [drain_wait takeStep_shrinks h] at hl
          cases hl
      | some p =>
          obtain ⟨⟨x, bytes⟩, rest⟩ := p
          rw [drain_item takeStep_shrinks h] at hl
          have hrest := ih rest.length (hn ▸ takeStep_shrinks s _ rest h) rest rfl l
          cases x with
          | frame r | desync k => exact hrest hl
          | reply r =>
              rcases List.mem_cons.mp hl with rfl | hl
              · exact takeStep_kept h
              · exact hrest hl

/-- **Of every line it hands on the reader keeps the first eight numbers.** -/
theorem linesHeard_kept : ∀ (as : List Arrival) (d : OpDevice), ∀ l ∈ linesHeard d as, l.Kept
  | [], _, _, hl => absurd hl List.not_mem_nil
  | .gone :: as, d, l, hl => linesHeard_kept as (arrive d .gone) l hl
  | .read tmp :: as, d, l, hl => by
      rcases List.mem_append.mp hl with hl | hl
      · split at hl
        · cases hl
        · exact linesRead_kept d.accum tmp l hl
      · exact linesHeard_kept as (arrive d (.read tmp)) l hl

theorem held_toNat (n : Nat) : (held n).toNat = min n 0xFFFFFFFF := by
  unfold held
  rw [UInt32.toNat_ofNat']
  omega

/-- **The driver misreads only long lines**: where it takes a line for the answer to a command whose
    number the line does not end with, the line has a ninth number, or one that 32 bits cannot
    hold. -/
theorem Line.echoes_long {l : Line} {seq : UInt32} (hkept : l.Kept) (he : l.echoes seq = true)
    (ht : l.reply.kind.tailed = true) (hlast : (trailing l.bytes).getLast? ≠ some seq.toNat) :
    tailMax < (trailing l.bytes).length ∨ ∃ n ∈ trailing l.bytes, 2 ^ 32 ≤ n := by
  have hecho : l.reply.tail.getLast? = some seq := by
    unfold Line.echoes OpReply.echoed at he
    simp only [Bool.and_eq_true, beq_iff_eq] at he
    exact he.2
  rw [hkept ht] at hecho
  refine Classical.byContradiction fun hno => ?_
  rw [not_or] at hno
  have hshort : (trailing l.bytes).length ≤ tailMax := Nat.le_of_not_lt hno.1
  rw [List.take_of_length_le (by rw [List.length_map]; exact hshort), List.getLast?_map] at hecho
  obtain ⟨n, hn, hs⟩ := Option.map_eq_some_iff.mp hecho
  have hlt : n < 2 ^ 32 :=
    Nat.lt_of_not_le fun h => hno.2 ⟨n, List.mem_of_getLast? hn, h⟩
  refine hlast ?_
  rw [hn, ← hs, held_toNat]
  exact congrArg some (by omega)

/-! ## 3. The reader's stream -/

theorem linesHeard_same : ∀ (as : List Arrival) {d d' : OpDevice}, SameStream d d' →
    linesHeard d' as = linesHeard d as
  | [], _, _, _ => rfl
  | .gone :: as, _, _, h => linesHeard_same as (arrive_same h .gone)
  | .read tmp :: as, _, _, h => by
      unfold linesHeard
      rw [h.lost, h.accum, linesHeard_same as (arrive_same h (.read tmp))]

theorem linesHeard_append : ∀ (as bs : List Arrival) (d : OpDevice),
    linesHeard d (as ++ bs) = linesHeard d as ++ linesHeard (arrivals d as) bs
  | [], _, _ => rfl
  | .gone :: as, bs, d => linesHeard_append as bs (arrive d .gone)
  | .read tmp :: as, bs, d => by
      show _ ++ linesHeard (arrive d (.read tmp)) (as ++ bs) = (_ ++ _) ++ _
      rw [linesHeard_append as bs, List.append_assoc]
      rfl

/-! ## 4. The slot -/

/-- The reply in the slot. -/
def OpDevice.slot (d : OpDevice) : Option OpReply := if d.replyValid then some d.reply else none

/-- A numbered command that is no init waits. -/
structure WaitsFor (seq : UInt32) (d : OpDevice) : Prop where
  waiting : d.cmdWaiting = true
  pending : d.seqPending = seq
  numbered : seq ≠ 0
  keyless : d.cmdVerb ≠ 0x79
  plain : d.cmdVerb ≠ 0x77

section Slot

variable {seq : UInt32} {d : OpDevice}

/-- It claims the lines that echo its number, and no others. -/
theorem WaitsFor.claims (h : WaitsFor seq d) (l : Line) : claims d l.reply = l.echoes seq := by
  have hs : (d.seqPending != 0) = true := bne_iff_ne.mpr (h.pending ▸ h.numbered)
  have hy : (d.cmdVerb != 0x79) = true := bne_iff_ne.mpr h.keyless
  have hw : (d.cmdVerb != 0x77) = true := bne_iff_ne.mpr h.plain
  unfold Openport.claims Line.echoes
  rw [h.waiting, hs, hy, hw, h.pending]
  cases hk : l.reply.kind <;> simp [bne, Bool.beq_eq_decide_eq]

theorem WaitsFor.of_eq {d' : OpDevice} (h : WaitsFor seq d) (h1 : d'.cmdWaiting = d.cmdWaiting)
    (h2 : d'.seqPending = d.seqPending) (h3 : d'.cmdVerb = d.cmdVerb) : WaitsFor seq d' :=
  ⟨h1.trans h.waiting, h2.trans h.pending, h.numbered, h3 ▸ h.keyless, h3 ▸ h.plain⟩

theorem lastEcho_append (ls ms : List Line) :
    lastEcho seq (ls ++ ms) = (lastEcho seq ms).or (lastEcho seq ls) := by
  unfold lastEcho
  rw [List.filter_append, List.getLast?_append]

/-- What of it the caller would be given. -/
def answerOf (seq : UInt32) (ls : List Line) : Option OpReply :=
  (lastEcho seq ls).map fun l => matchedReply l.reply

theorem answerOf_append (ls ms : List Line) :
    answerOf seq (ls ++ ms) = (answerOf seq ms).or (answerOf seq ls) := by
  unfold answerOf
  rw [lastEcho_append, Option.map_or]

theorem answerOf_single (l : Line) :
    answerOf seq [l] = if l.echoes seq then some (matchedReply l.reply) else none := by
  unfold answerOf lastEcho
  by_cases h : l.echoes seq = true
  · rw [List.filter_cons_of_pos h, if_pos h]
    rfl
  · rw [List.filter_cons_of_neg h, if_neg h]
    rfl

/-- One thing handed on: an echo of its number goes into the slot. -/
theorem WaitsFor.handOn (h : WaitsFor seq d) (p : Handed × Bytes) :
    WaitsFor seq (handOn d p.1) ∧
      (handOn d p.1).slot = (answerOf seq (lineOf p).toList).or d.slot := by
  obtain ⟨x, bytes⟩ := p
  cases x with
  | frame r =>
      obtain ⟨ch, e⟩ := absorbFrame_slot d r
      show WaitsFor seq (absorbFrame d r) ∧ (absorbFrame d r).slot = _
      rw [e]
      exact ⟨h.of_eq rfl rfl rfl, rfl⟩
  | desync n => exact ⟨h, rfl⟩
  | reply r =>
      have hclaims : Openport.claims d r = Line.echoes seq ⟨r, bytes⟩ := h.claims ⟨r, bytes⟩
      show WaitsFor seq (stashReply d r) ∧ (stashReply d r).slot = _
      by_cases hc : Openport.claims d r = true
      · obtain ⟨k1, k2, -⟩ := claims_strict (h.pending ▸ h.numbered) h.keyless h.plain hc
        obtain ⟨hreply, hvalid⟩ := stashReply_claimed (h.pending ▸ h.numbered) hc k1 k2
        have hecho : answerOf seq (lineOf (.reply r, bytes)).toList = some (matchedReply r) :=
          (answerOf_single ⟨r, bytes⟩).trans (if_pos (hclaims ▸ hc))
        obtain ⟨reply, text, data, valid, e⟩ := stashReply_slot d r
        refine ⟨?_, ?_⟩
        · rw [e]
          exact h.of_eq rfl rfl rfl
        · rw [hecho, OpDevice.slot, hvalid, hreply]
          rfl
      · have hno : Openport.claims d r = false := by simpa using hc
        have hecho : answerOf seq (lineOf (.reply r, bytes)).toList = none :=
          (answerOf_single ⟨r, bytes⟩).trans (if_neg (hclaims ▸ hc))
        rw [stashReply_refused hno, hecho]
        exact ⟨h, rfl⟩

theorem WaitsFor.handAll : ∀ (xs : List (Handed × Bytes)) {d : OpDevice}, WaitsFor seq d →
    WaitsFor seq ((xs.map Prod.fst).foldl Openport.handOn d) ∧
      ((xs.map Prod.fst).foldl Openport.handOn d).slot =
        (answerOf seq (xs.filterMap lineOf)).or d.slot
  | [], _, h => ⟨h, rfl⟩
  | p :: xs, d, h => by
      obtain ⟨h1, hs1⟩ := h.handOn p
      obtain ⟨h2, hs2⟩ := handAll xs h1
      refine ⟨h2, hs2.trans ?_⟩
      have hsplit : (p :: xs).filterMap lineOf = (lineOf p).toList ++ xs.filterMap lineOf := by
        rw [List.filterMap_cons]
        cases lineOf p <;> rfl
      rw [hs1, hsplit, answerOf_append, Option.or_assoc]

/-- **What the slot holds after a run of the reader**: the last line that echoes the command's
    number, or what it held before. -/
theorem slot_arrivals : ∀ (as : List Arrival) {d : OpDevice}, WaitsFor seq d →
    WaitsFor seq (arrivals d as) ∧
      (arrivals d as).slot = (answerOf seq (linesHeard d as)).or d.slot
  | [], _, h => ⟨h, rfl⟩
  | .gone :: as, d, h => by
      have h' : WaitsFor seq (arrive d .gone) := h.of_eq rfl rfl rfl
      exact slot_arrivals as h'
  | .read tmp :: as, d, h => by
      by_cases hl : d.lost = true
      · have he : arrive d (.read tmp) = d := if_pos hl
        rw [linesHeard_read, if_pos hl, List.nil_append, he]
        show WaitsFor seq (arrivals (arrive d (.read tmp)) as) ∧
          (arrivals (arrive d (.read tmp)) as).slot = _
        rw [he]
        exact slot_arrivals as h
      · have he : arrive d (.read tmp) = (((drain takeStep (d.accum ++
            tmp.take (opAccumCap - d.accum.length))).1.map Prod.fst).foldl Openport.handOn
            { d with accum := (readerRead d.accum tmp).2 }) := by
          rw [drain_takeStep]
          exact if_neg hl
        have h0 : WaitsFor seq { d with accum := (readerRead d.accum tmp).2 } := h.of_eq rfl rfl rfl
        obtain ⟨h1, hs1⟩ := h0.handAll
          (drain takeStep (d.accum ++ tmp.take (opAccumCap - d.accum.length))).1
        rw [← he] at h1 hs1
        obtain ⟨h2, hs2⟩ := slot_arrivals as h1
        refine ⟨h2, hs2.trans ?_⟩
        rw [linesHeard_read, if_neg hl, answerOf_append, Option.or_assoc, hs1]
        rfl

end Slot

/-! ## 5. A command -/

/-- Whether a command that finds the session open reaches the wire: the cable is there when it
    comes to it, and the transport takes its bytes. -/
def goesOut (x : Exchange) (d : OpDevice) : Bool :=
  !(arrivals d x.before).lost && x.written == .ok

/-- The lines that are handed on while a command waits. -/
def Exchange.lines (x : Exchange) (d : OpDevice) : List Line :=
  linesHeard (arrivals d x.before) (x.early ++ x.late)

/-- A number and the one behind it. -/
def nextNumber (n : UInt32) : UInt32 := if n + 1 < 256 then 256 else n + 1

/-- What a numbered command in an open session comes to that goes out. -/
structure WentOut (x : Exchange) (d : OpDevice) (wait : Bool)
    (r : OpStatus × Option OpReply × OpDevice) : Prop where
  opened : r.2.2.opened = true
  seqNext : r.2.2.seqNext = nextNumber d.seqNext
  stream : SameStream (arrivals d (x.before ++ if wait then x.early ++ x.late else x.early)) r.2.2
  unwaited : wait = false → r.1 = .ok
  reply : wait = true → r.2.1 = answerOf d.seqNext (x.lines d)
  result : wait = true → (r.1 = .ok ↔ (answerOf d.seqNext (x.lines d)).isSome = true)

/-- The end of a wait is told by the slot. -/
theorem collect_slot (d : OpDevice) :
    (collect d).2.1 = d.slot ∧ ((collect d).1 = .ok ↔ d.slot.isSome = true) := by
  unfold collect OpDevice.slot
  by_cases hv : d.replyValid = true
  · rw [if_pos hv, if_pos hv]
    exact ⟨rfl, fun _ => rfl, fun _ => rfl⟩
  · rw [if_neg hv, if_neg hv]
    split <;> exact ⟨rfl, fun e => (nomatch e), fun e => (nomatch e)⟩

section Command

variable {x : Exchange} {d : OpDevice} {c : Command} {payload : Bytes}

/-- A command that carries a number gets the next one. -/
theorem numberLine_command (d : OpDevice) (hl : c.line.length < opCmdMax) (h0 : c.verb ≠ 0)
    (hi : c.verb ≠ 0x69) : numberLine d c.line = ((c.numbered d.seqNext).line, d.seqNext,
      { d with seqNext := nextNumber d.seqNext }) := by
  have hnum : opCmdIsNumbered c.line = true := by
    show (c.verb != 0 && c.verb != 0x69) = true
    simp [h0, hi]
  have hne := numberLine_ne_nil d hl
  change (numberLine d c.line).1 ≠ [] at hne
  unfold numberLine at hne ⊢
  rw [if_pos hnum] at hne ⊢
  have hnumbered : opCmdNumber c.line numberedMax d.seqNext = (c.numbered d.seqNext).line :=
    opCmdNumber_line c hne
  simp only
  rw [show (takeNumber d).1 = d.seqNext from rfl, hnumbered]
  rfl

variable (hl : c.line.length < opCmdMax) (hp : payload.length ≤ opMsgMax)
include hl hp

/-- It fails where it does not go out. -/
theorem cmdExchange_stays (h : goesOut x d = false) (timeoutMs : UInt32) (wait : Bool) :
    (cmdExchange x d c.line payload timeoutMs wait).1 ≠ .ok := by
  have hne : c.line ≠ [] := List.append_ne_nil_of_right_ne_nil _ (by decide)
  unfold cmdExchange
  rw [if_neg (by rintro (h | h | h); exacts [hne h, by omega, by omega])]
  simp only
  split
  · exact fun e => nomatch e
  · rename_i hthere
    rw [if_neg (show (numberLine (arrivals d x.before) c.line).1 ≠ [] from numberLine_ne_nil _ hl)]
    have hw : x.written ≠ .ok := fun e => by
      rw [Bool.or_eq_true, not_or] at hthere
      unfold goesOut at h
      rw [Bool.eq_false_of_not_eq_true hthere.2, e] at h
      cases h
    unfold transact
    simp only
    rw [if_pos (Or.inl hw)]
    exact hw

/-- **What a numbered command that is no init comes to where it goes out.** -/
theorem cmdExchange_out (h : goesOut x d = true) (hopen : d.opened = true) (hn : d.seqNext ≠ 0)
    (h0 : c.verb ≠ 0) (hi : c.verb ≠ 0x69) (hy : c.verb ≠ 0x79) (hw : c.verb ≠ 0x77)
    (timeoutMs : UInt32) (wait : Bool) :
    WentOut x d wait (cmdExchange x d c.line payload timeoutMs wait) := by
  have hne : c.line ≠ [] := List.append_ne_nil_of_right_ne_nil _ (by decide)
  have hst := arrivals_steady d x.before
  obtain ⟨hlost, hok⟩ : (arrivals d x.before).lost = false ∧ x.written = .ok := by
    simpa [goesOut] using h
  have hnum := numberLine_command (arrivals d x.before) hl h0 hi
  rw [hst.seqNext] at hnum
  unfold cmdExchange
  rw [if_neg (by rintro (h | h | h); exacts [hne h, by omega, by omega])]
  simp only
  rw [hst.opened, hopen, hlost, if_neg (by decide),
    if_neg (show (numberLine (arrivals d x.before) c.line).1 ≠ [] from numberLine_ne_nil _ hl), hnum]
  simp only
  generalize hd1 : ({ arrivals d x.before with seqNext := nextNumber d.seqNext } : OpDevice) = d1
  have hopen1 : d1.opened = true := by rw [← hd1]; exact hst.opened.trans hopen
  have hseq1 : d1.seqNext = nextNumber d.seqNext := by rw [← hd1]
  have hclaim : SameStream (arrivals d x.before) (claimSlot d1 wait d.seqNext c.verb) :=
    hd1 ▸ ⟨rfl, rfl, rfl⟩
  have hearly := arrivals_steady (claimSlot d1 wait d.seqNext c.verb) x.early
  have hsame := arrivals_same x.early hclaim
  rw [← arrivals_append] at hsame
  unfold transact
  simp only
  rw [show (c.numbered d.seqNext).line.getD 2 0 = c.verb from rfl]
  cases wait with
  | false =>
      rw [if_pos (show x.written ≠ .ok ∨ (!false) = true from Or.inr rfl)]
      exact ⟨hearly.opened.trans hopen1, hearly.seqNext.trans hseq1,
        ⟨hsame.ch, hsame.accum, hsame.lost⟩, fun _ => hok, fun e => (nomatch e), fun e => (nomatch e)⟩
  | true =>
      rw [if_neg (show ¬(x.written ≠ .ok ∨ (!true) = true) by
        rintro (e | e); exacts [e hok, nomatch e]), ← arrivals_append]
      have hall := arrivals_steady (claimSlot d1 true d.seqNext c.verb) (x.early ++ x.late)
      have hwait : WaitsFor d.seqNext (claimSlot d1 true d.seqNext c.verb) :=
        ⟨rfl, rfl, hn, hy, hw⟩
      obtain ⟨-, hslot⟩ := slot_arrivals (x.early ++ x.late) hwait
      rw [linesHeard_same _ hclaim, show (claimSlot d1 true d.seqNext c.verb).slot = none from rfl,
        Option.or_none] at hslot
      have hsame := arrivals_same (x.early ++ x.late) hclaim
      rw [← arrivals_append] at hsame
      generalize arrivals (claimSlot d1 true d.seqNext c.verb) (x.early ++ x.late) = dEnd at *
      obtain ⟨hreply, hresult⟩ := collect_slot dEnd
      have hend := hall.trans (collect_spec dEnd).1
      rw [hslot] at hreply hresult
      have hstream := hsame.trans (collect_same dEnd)
      exact ⟨hend.opened.trans hopen1, hend.seqNext.trans hseq1,
        ⟨hstream.ch, hstream.accum, hstream.lost⟩, fun e => (nomatch e), fun _ => hreply,
        fun _ => hresult⟩

end Command

end Openport
