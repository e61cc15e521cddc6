/-
  File:      Openport/Device/Resync.lean
  Subject:   Bytes that are no reply in front of a stream of records, and where the
             reads may cut them.

  The loop skips junk to the first candidate `op_resync_offset` finds, and that
  function sees a candidate only with all three of its bytes present. Where the
  read that ends the junk brings three bytes of the stream or none, the records
  come out as in a single read. Where it brings one or two, they are skipped
  with the junk, and the first record is lost: the reader is late, and stays so
  (`late_reads`). `resync_exact` is both directions.
-/
import Openport.Device.Late

namespace Openport

open Lib.Decimal Lib.Framing

/-! ## 1. Junk -/

/-- No reply begins in these bytes. -/
def NoAr (s : Bytes) : Prop := ¬[0x61, 0x72] <:+: s

/-- A complete line after "ar" and a lower-case letter `op_parse` does not know, and no further
    "ar" in it. -/
def UnknownLine (g : Bytes) : Prop :=
  ∃ c s, g = 0x61 :: 0x72 :: c :: (s ++ [0x0d, 0x0a]) ∧ 0x61 ≤ c ∧ c ≤ 0x7a ∧ knownThird c = false ∧
    findCrLf (c :: s) = none ∧ NoAr (0x72 :: c :: (s ++ [0x0d, 0x0a]))

/-- What stands before the stream: bytes without an 'a', or one unknown line. -/
def JunkPrefix (g : Bytes) : Prop := 0x61 ∉ g ∨ UnknownLine g

/-- What is left of it while the reader skips it. -/
def JunkTail (g : Bytes) : Prop := NoAr g ∧ g.getLast? ≠ some 0x61 ∨ UnknownLine g

/-- While `junk` bytes of junk are unread, no read ends one or two bytes behind them. -/
def cutClear : Nat → List Bytes → Bool
  | _, [] => true
  | 0, _ => true
  | junk + 1, tmp :: reads =>
    if tmp.length ≤ junk + 1 then cutClear (junk + 1 - tmp.length) reads
    else decide (junk + 1 + 3 ≤ tmp.length)

theorem NoAr.tail {b : UInt8} {s : Bytes} (h : NoAr (b :: s)) : NoAr s :=
  fun hi => h (hi.trans (List.suffix_cons b s).isInfix)

theorem NoAr.suffix {p s : Bytes} (h : NoAr (p ++ s)) : NoAr s :=
  fun hi => h (hi.trans (List.suffix_append p s).isInfix)

theorem NoAr.prefix {p s : Bytes} (h : NoAr (p ++ s)) : NoAr p :=
  fun hi => h (hi.trans (List.prefix_append p s).isInfix)

theorem NoAr.head {b : UInt8} {s : Bytes} (h : NoAr (b :: s)) :
    ¬(b = 0x61 ∧ s.head? = some 0x72) := by
  rintro ⟨rfl, hs⟩
  cases s with
  | nil => cases hs
  | cons c s =>
      cases hs
      exact h (List.prefix_append [0x61, 0x72] s).isInfix

theorem noAr_of_noA {s : Bytes} (h : (0x61 : UInt8) ∉ s) : NoAr s :=
  fun hi => h (hi.subset List.mem_cons_self)

theorem JunkPrefix.tail {g : Bytes} (h : JunkPrefix g) : JunkTail g := by
  rcases h with h | h
  · exact Or.inl ⟨noAr_of_noA h, fun e => h (List.mem_of_getLast? e)⟩
  · exact Or.inr h

/-! ## 2. The scan for the next reply -/

/-- Where no reply begins, the scan goes on. -/
theorem resyncScan_cons {b : UInt8} {s : Bytes} (h : ¬(b = 0x61 ∧ s.head? = some 0x72)) :
    resyncScan (b :: s) = resyncScan s + 1 := by
  rcases s with _ | ⟨c, _ | ⟨d, s⟩⟩
  · rfl
  · rfl
  · show (if b = 0x61 ∧ c = 0x72 ∧ knownThird d then 0 else resyncScan (c :: d :: s) + 1) = _
    rw [if_neg fun e => h ⟨e.1, by rw [e.2.1]; rfl⟩]

/-- Where no reply begins at all, the scan ends at the end. -/
theorem resyncScan_noAr : ∀ {s : Bytes}, NoAr s → resyncScan s = s.length
  | [], _ => rfl
  | b :: s, h => by
      rw [resyncScan_cons h.head, resyncScan_noAr h.tail]
      rfl

/-- The scan passes over junk that does not end in an 'a', and goes on behind it. -/
theorem resyncScan_append : ∀ {s : Bytes} (p : Bytes), NoAr s → s.getLast? ≠ some 0x61 →
    resyncScan (s ++ p) = s.length + resyncScan p
  | [], p, _, _ => (Nat.zero_add _).symm
  | [b], p, _, hl => by
      have hb : ¬(b = 0x61 ∧ p.head? = some 0x72) := fun e => hl (by rw [e.1]; rfl)
      show resyncScan (b :: p) = 1 + resyncScan p
      rw [resyncScan_cons hb, Nat.add_comm]
  | b :: c :: s, p, h, hl => by
      have hb : ¬(b = 0x61 ∧ (c :: s ++ p).head? = some 0x72) := h.head
      have ih := resyncScan_append (s := c :: s) p h.tail (by
        rw [List.getLast?_cons_cons] at hl
        exact hl)
      show resyncScan (b :: (c :: s ++ p)) = (b :: c :: s).length + resyncScan p
      rw [resyncScan_cons hb, ih, List.length_cons (a := b)]
      omega

/-- Every record begins with a candidate. -/
theorem Record.wire_head (r : Record) : ∃ c s, r.wire = 0x61 :: 0x72 :: c :: s ∧
    knownThird c = true := by
  cases r with
  | frame ch status body =>
      refine ⟨digitByte ch.val, _, rfl, ?_⟩
      unfold knownThird
      rw [isDigit_digitByte ch.isLt]
      rfl
  | ok | error | info | pin | filter | config | periodic | fastInit | fiveBaud =>
      exact ⟨_, _, rfl, by decide⟩

/-- A stream begins with a candidate. -/
theorem stream_head {rs : List WireRecord} {p q : Bytes} (h : p ++ q = stream rs) :
    resyncScan p = if p.length < 3 then p.length else 0 := by
  rcases p with _ | ⟨b0, _ | ⟨b1, _ | ⟨b2, p⟩⟩⟩
  · rfl
  · rfl
  · rfl
  rw [if_neg (by simp only [List.length_cons]; omega)]
  cases rs with
  | nil => cases h
  | cons r rs =>
      obtain ⟨c, s, hs, hc⟩ := r.val.wire_head
      rw [stream_cons, hs] at h
      obtain ⟨rfl, h1⟩ := List.cons.inj h
      obtain ⟨rfl, h2⟩ := List.cons.inj h1
      obtain ⟨rfl, -⟩ := List.cons.inj h2
      show (if (0x61 : UInt8) = 0x61 ∧ (0x72 : UInt8) = 0x72 ∧ knownThird b2 then 0 else _) = 0
      rw [if_pos ⟨rfl, rfl, hc⟩]

/-! ## 3. One turn of the loop on junk -/

/-- Bytes that begin no reply are junk, unless a lone 'a' waits for its second byte. -/
theorem opParse_noAr {b : UInt8} {s : Bytes} (h : ¬(b = 0x61 ∧ s.head? = some 0x72))
    (hs : b = 0x61 → s ≠ []) : opParse (b :: s) = (1, .junk) := by
  by_cases hb : b = 0x61
  · cases s with
    | nil => exact absurd rfl (hs hb)
    | cons c s =>
        have hc : c ≠ 0x72 := fun e => h ⟨hb, by rw [e]; rfl⟩
        simp [opParse, hb, hc]
  · simp [opParse, hb]

/-- A turn of the loop that finds junk skips as far as the scan goes. -/
theorem consumeStep_junk {buf : Bytes} {n m : Nat} (h : opParse buf = (n, .junk)) (hn : n ≠ 0)
    (hm : opResyncOffset buf = m) (hle : n ≤ m) :
    consumeStep buf = some (.desync m, buf.drop m) := by
  have hmax : (if n < opResyncOffset buf then opResyncOffset buf else n) = m := by
    split <;> omega
  unfold consumeStep
  rw [h]
  simp only [hn, if_false, OpReply.junk, hmax]

/-- A letter `op_parse` does not know is no digit. -/
theorem unknown_notDigit {c : UInt8} (h : knownThird c = false) : isDigit c = false := by
  unfold knownThird at h
  simp only [Bool.or_eq_false_iff] at h
  exact h.1.1.1.1.1.1.1.1.1

/-- A line after such a letter is junk. -/
theorem parseAscii_unknown {c : UInt8} {s : Bytes} (h : knownThird c = false) :
    parseAscii (c :: s) = .junk := by
  unfold knownThird at h
  simp only [Bool.or_eq_false_iff, beq_eq_false_iff_ne, ne_eq] at h
  obtain ⟨⟨⟨⟨⟨⟨⟨⟨⟨-, ho⟩, he⟩, hi⟩, hr⟩, hf⟩, hg⟩, hy⟩, hw⟩, hm⟩ := h
  unfold parseAscii
  split
  · rfl
  rename_i heq
  cases heq
  split
  all_goals first
    | rfl
    | (rename_i hc; exact absurd rfl (by assumption))

/-- **All of the junk goes in one turn**, and with it what the scan skips behind it. -/
theorem consumeStep_whole {g : Bytes} (h : JunkTail g) (hg : g ≠ []) (p : Bytes) :
    ∃ n, consumeStep (g ++ p) = some (.desync n, p.drop (resyncScan p)) := by
  rcases h with ⟨hn, hl⟩ | ⟨c, s, rfl, -, -, hc, hf, hn⟩
  · cases g with
    | nil => exact absurd rfl hg
    | cons b s =>
        have hparse : opParse (b :: (s ++ p)) = (1, .junk) := by
          cases s with
          | nil =>
              have hb : b ≠ 0x61 := fun e => hl (by rw [e]; rfl)
              exact opParse_noAr (fun e => hb e.1) (fun e => absurd e hb)
          | cons c s => exact opParse_noAr (fun e => hn.head e) (fun _ => List.cons_ne_nil _ _)
        have hscan : resyncScan (s ++ p) = s.length + resyncScan p := by
          refine resyncScan_append p hn.tail ?_
          cases s with
          | nil => exact fun e => (nomatch e)
          | cons c s => rwa [List.getLast?_cons_cons] at hl
        have hoff : opResyncOffset (b :: (s ++ p)) = (b :: s).length + resyncScan p := by
          show resyncScan (s ++ p) + 1 = _
          rw [hscan, List.length_cons]
          omega
        have hdrop : (b :: (s ++ p)).drop ((b :: s).length + resyncScan p) =
          p.drop (resyncScan p) := by
          rw [← List.drop_drop, ← List.cons_append, List.drop_left]
        have hstep := consumeStep_junk hparse (by decide) hoff (by rw [List.length_cons]; omega)
        rw [hdrop] at hstep
        exact ⟨_, hstep⟩
  · have hsplit : 0x61 :: 0x72 :: c :: (s ++ [0x0d, 0x0a]) ++ p =
        0x61 :: 0x72 :: (c :: s ++ 0x0d :: 0x0a :: p) := by simp
    have hparse : opParse (0x61 :: 0x72 :: c :: (s ++ [0x0d, 0x0a]) ++ p) =
        ((c :: s).length + 4, .junk) := by
      rw [hsplit]
      show opParse (0x61 :: 0x72 :: c :: (s ++ 0x0d :: 0x0a :: p)) = _
      rw [opParse_verb (unknown_notDigit hc)]
      show opParseLine (c :: s ++ 0x0d :: 0x0a :: p) = _
      rw [opParseLine_plain hf (by rw [parseAscii_unknown hc]; exact fun e => (nomatch e.1))
        (List.cons_ne_nil _ _), parseAscii_unknown hc]
    have hlast : (0x72 :: c :: (s ++ [0x0d, 0x0a])).getLast? ≠ some (0x61 : UInt8) := by
      have e : (0x72 : UInt8) :: c :: (s ++ [0x0d, 0x0a]) = (0x72 :: c :: (s ++ [0x0d])) ++
        [0x0a] := by simp
      rw [e, List.getLast?_concat]
      decide
    have hoff : opResyncOffset (0x61 :: 0x72 :: c :: (s ++ [0x0d, 0x0a]) ++ p) =
        (0x61 :: 0x72 :: c :: (s ++ [0x0d, 0x0a])).length + resyncScan p := by
      show resyncScan (0x72 :: c :: (s ++ [0x0d, 0x0a]) ++ p) + 1 = _
      rw [resyncScan_append p hn hlast, List.length_cons (a := 0x61)]
      omega
    have hstep := consumeStep_junk hparse (by omega) hoff (by
      simp only [List.length_cons, List.length_append, List.length_nil]
      omega)
    rw [← List.drop_drop, List.drop_left] at hstep
    exact ⟨_, hstep⟩

/-- A part of the junk waits, or goes and leaves junk. -/
theorem consumeStep_part {b q : Bytes} (h : JunkTail (b ++ q)) (hb : b ≠ []) (hq : q ≠ []) :
    consumeStep b = none ∨ (∃ n, consumeStep b = some (.desync n, [])) ∧ JunkTail q := by
  have hlastq : (b ++ q).getLast? = q.getLast? := List.getLast?_append_of_ne_nil _ hq
  rcases h with ⟨hn, hl⟩ | ⟨c, s, hg, hlo, hhi, hc, hf, hn⟩
  · rw [hlastq] at hl
    cases b with
    | nil => exact absurd rfl hb
    | cons b0 s =>
        by_cases hwait : b0 = 0x61 ∧ s = []
        · obtain ⟨rfl, rfl⟩ := hwait
          exact Or.inl rfl
        · have hparse := opParse_noAr hn.prefix.head fun e hs => hwait ⟨e, hs⟩
          have hoff : opResyncOffset (b0 :: s) = (b0 :: s).length := by
            show resyncScan s + 1 = _
            rw [resyncScan_noAr hn.prefix.tail]
            rfl
          have hstep := consumeStep_junk hparse (by decide) hoff (by rw [List.length_cons]; omega)
          rw [List.drop_length] at hstep
          exact Or.inr ⟨⟨_, hstep⟩, Or.inl ⟨hn.suffix, hl⟩⟩
  · rcases b with _ | ⟨b0, _ | ⟨b1, _ | ⟨b2, t⟩⟩⟩
    · exact absurd rfl hb
    · obtain ⟨rfl, -⟩ := List.cons.inj hg
      exact Or.inl rfl
    · obtain ⟨rfl, h1⟩ := List.cons.inj hg
      obtain ⟨rfl, -⟩ := List.cons.inj h1
      exact Or.inl rfl
    · obtain ⟨rfl, h1⟩ := List.cons.inj hg
      obtain ⟨rfl, h2⟩ := List.cons.inj h1
      obtain ⟨rfl, hs⟩ := List.cons.inj h2
      replace hs : t ++ q = s ++ [0x0d, 0x0a] := hs
      have hpre : b2 :: t <+: b2 :: s ++ [0x0d, 0x0a] := ⟨q, by rw [List.cons_append, hs]; rfl⟩
      have hne : b2 :: t ≠ b2 :: s ++ [0x0d, 0x0a] := by
        intro e
        have e' : t = s ++ [0x0d, 0x0a] := (List.cons.inj e).2
        rw [e'] at hs
        exact hq (List.append_right_eq_self.mp hs)
      have hparse : opParse (0x61 :: 0x72 :: b2 :: t) =
          if (b2 :: t).length + 2 > opCmdMax * 4 then (1, .junk) else (0, .incomplete) := by
        rw [opParse_verb (unknown_notDigit hc)]
        unfold opParseLine
        rw [findCrLf_waits hf hpre hne]
      by_cases hlong : (b2 :: t).length + 2 > opCmdMax * 4
      · rw [if_pos hlong] at hparse
        have hsplit : (0x72 : UInt8) :: b2 :: (s ++ [0x0d, 0x0a]) = (0x72 :: b2 :: t) ++ q := by
          rw [← hs]
          rfl
        rw [hsplit] at hn
        have hoff : opResyncOffset (0x61 :: 0x72 :: b2 :: t) =
          (0x61 :: 0x72 :: b2 :: t).length := by
          show resyncScan (0x72 :: b2 :: t) + 1 = _
          rw [resyncScan_noAr hn.prefix]
          rfl
        have hstep := consumeStep_junk hparse (by decide) hoff (by rw [List.length_cons]; omega)
        rw [List.drop_length] at hstep
        refine Or.inr ⟨⟨_, hstep⟩, Or.inl ⟨hn.suffix, ?_⟩⟩
        have e : t ++ q = (s ++ [0x0d]) ++ [0x0a] := by
          rw [hs]
          simp
        rw [← List.getLast?_append_of_ne_nil t hq, e, List.getLast?_concat]
        decide
      · rw [if_neg hlong] at hparse
        exact Or.inl (consumeStep_wait (by rw [hparse]))

/-! ## 4. Reads of junk and a stream -/

theorem cutClear_zero (reads : List Bytes) : cutClear 0 reads = true := by
  cases reads <;> rfl

theorem cutClear_cons {junk : Nat} (h : 0 < junk) (tmp : Bytes) (reads : List Bytes) :
    cutClear junk (tmp :: reads) = if tmp.length ≤ junk then cutClear (junk - tmp.length) reads
      else decide (junk + 3 ≤ tmp.length) := by
  cases junk with
  | zero => exact absurd h (Nat.lt_irrefl 0)
  | succ junk => rfl

/-- The junk is never complete in the accumulator. -/
theorem JunkTail.eq_nil {g : Bytes} (h : JunkTail g) (hs : Short g) : g = [] := by
  refine Classical.byContradiction ?_
  intro hg
  obtain ⟨n, hn⟩ := consumeStep_whole h hg []
  rw [List.append_nil, consumeStep_wait hs.1] at hn
  cases hn

/-- A desync is no reply. -/
theorem handedReplies_desync (n : Nat) (hs : List Handed) : handedReplies (.desync n :: hs) =
    handedReplies hs :=
  rfl

/-- The reads after a first one that drains to a desync and what another would drain to. -/
theorem handedReplies_after {accum accum' tmp tmp' : Bytes} {reads : List Bytes} {n : Nat}
    (ha : Short accum) (ht : tmp.length ≤ 1024) (ha' : Short accum') (ht' : tmp'.length ≤ 1024)
    (hs : consumeStep (accum ++ tmp) = some (.desync n, accum' ++ tmp')) :
    handedReplies (readerReads accum (tmp :: reads)).1 =
      handedReplies (readerReads accum' (tmp' :: reads)).1 := by
  obtain ⟨h1, -⟩ := readerRead_short ha ht
  obtain ⟨h2, -⟩ := readerRead_short ha' ht'
  show handedReplies ((readerRead accum tmp).1 ++ (readerReads (readerRead accum tmp).2 reads).1) =
    handedReplies ((readerRead accum' tmp').1 ++ (readerReads (readerRead accum' tmp').2 reads).1)
  rw [h1, h2, drain_item consumeStep_shrinks hs, handedReplies_append, handedReplies_append,
    handedReplies_desync]

theorem readerReads_nil_cons (reads : List Bytes) :
    readerReads [] ([] :: reads) = readerReads [] reads := rfl

/-- A read that ends inside the junk, or with it: what is there goes as a whole, or waits. -/
theorem readerReads_inside {accum tmp q : Bytes} (ha : Short accum)
    (hg : JunkTail (accum ++ tmp ++ q))
    (ht : 1 ≤ tmp.length ∧ tmp.length ≤ 1024) :
    ∃ accum', Short accum' ∧ JunkTail (accum' ++ q) ∧ ∀ reads,
      handedReplies (readerReads accum (tmp :: reads)).1 =
        handedReplies (readerReads accum' reads).1 := by
  have hne : accum ++ tmp ≠ [] := by
    intro e
    rw [(List.append_eq_nil_iff.mp e).2] at ht
    exact absurd ht.1 (by decide)
  have hgone : ∀ n, consumeStep (accum ++ tmp) = some (.desync n, []) → JunkTail q →
      ∃ accum', Short accum' ∧ JunkTail (accum' ++ q) ∧ ∀ reads,
        handedReplies (readerReads accum (tmp :: reads)).1 =
          handedReplies (readerReads accum' reads).1 := fun n hn hq => by
    refine ⟨[], short_nil, hq, ?_⟩
    intro reads
    rw [handedReplies_after ha ht.2 short_nil (Nat.zero_le _) hn, readerReads_nil_cons]
  by_cases hq : q = []
  · subst hq
    rw [List.append_nil] at hg
    obtain ⟨n, hn⟩ := consumeStep_whole hg hne []
    rw [List.append_nil] at hn
    exact hgone n hn (Or.inl ⟨noAr_of_noA List.not_mem_nil, fun e => (nomatch e)⟩)
  · rcases consumeStep_part hg hne hq with hw | ⟨⟨n, hn⟩, hqt⟩
    · obtain ⟨hread, hshort⟩ := readerRead_short ha ht.2
      rw [drain_wait consumeStep_shrinks hw] at hread
      rw [hread] at hshort
      refine ⟨accum ++ tmp, hshort, hg, ?_⟩
      intro reads
      show handedReplies ((readerRead accum tmp).1 ++
        (readerReads (readerRead accum tmp).2 reads).1) = _
      rw [hread]
      rfl
    · exact hgone n hn hqt

/-- A read that brings the rest of the junk and the beginning `p` of the stream: with three bytes
    of it nothing is lost, and with fewer they go with the junk. -/
theorem readerReads_across {accum junk p : Bytes} {reads : List Bytes} {rs : List WireRecord}
    (ha : Short accum) (hg : JunkTail (accum ++ junk)) (hjunk : junk ≠ []) (hp : 0 < p.length)
    (ht : (junk ++ p).length ≤ 1024) (hl : ∀ t ∈ reads, t.length ≤ 1024)
    (hstream : p ++ reads.flatten = stream rs) :
    handedReplies (readerReads accum ((junk ++ p) :: reads)).1 = handedOn rs ↔ 3 ≤ p.length := by
  have hplen : p.length ≤ 1024 := by
    rw [List.length_append] at ht
    omega
  have hgne : accum ++ junk ≠ [] := fun e => hjunk (List.append_eq_nil_iff.mp e).2
  obtain ⟨n, hn⟩ := consumeStep_whole hg hgne p
  rw [stream_head hstream, List.append_assoc] at hn
  by_cases h3 : p.length < 3
  · rw [if_pos h3, List.drop_length] at hn
    rw [handedReplies_after ha ht short_nil (Nat.zero_le _) hn, readerReads_nil_cons]
    have hlate := late_reads reads [] p rs short_nil hl (List.length_pos_iff.mp hp) hstream
    exact ⟨fun h => absurd h hlate, fun h => absurd h (Nat.not_le.mpr h3)⟩
  · rw [if_neg h3, List.drop_zero] at hn
    have hrun := readerReads_stream rs (p :: reads) (.inl rfl) hstream fun t ht => by
      rcases List.mem_cons.mp ht with rfl | ht
      · exact hplen
      · exact hl t ht
    rw [handedReplies_after ha ht short_nil hplen hn, hrun, handedReplies_handedOn]
    exact ⟨fun _ => Nat.le_of_not_lt h3, fun _ => rfl⟩

/-- **Junk and a stream, from any point inside the junk on.** -/
theorem readerReads_junk (rs : List WireRecord) : ∀ (reads : List Bytes) (accum g : Bytes),
    Short accum → JunkTail g → accum <+: g →
    (∀ tmp ∈ reads, 1 ≤ tmp.length ∧ tmp.length ≤ 1024) → accum ++ reads.flatten = g ++ stream rs →
    (handedReplies (readerReads accum reads).1 = handedOn rs ↔
      cutClear (g.length - accum.length) reads = true)
  | [], accum, g, _, _, hp, _, he => by
      have hrs : rs = [] := by
        cases rs with
        | nil => rfl
        | cons r rs =>
            have hl := congrArg List.length he
            have hle := hp.length_le
            have hw : 0 < r.val.wire.length :=
              List.length_pos_iff.mpr ((record_code r.property).ne_nil consumeStep_shrinks)
            rw [List.flatten_nil, List.append_nil, stream_cons, List.length_append,
              List.length_append] at hl
            omega
      rw [hrs]
      exact ⟨fun _ => by cases g.length - accum.length <;> rfl, fun _ => rfl⟩
  | tmp :: reads, accum, g, ha, hg, hp, hl, he => by
      have htmp := hl tmp List.mem_cons_self
      have hl' : ∀ t ∈ reads, 1 ≤ t.length ∧ t.length ≤ 1024 :=
        fun t h => hl t (List.mem_cons_of_mem _ h)
      by_cases hm : accum = g
      · -- no junk is unread: the stream alone
        subst hm
        have h0 : accum = [] := hg.eq_nil ha
        subst h0
        have hrun := readerReads_stream rs (tmp :: reads) (.inl rfl) he fun t h => (hl t h).2
        rw [hrun, Nat.sub_self, cutClear_zero]
        exact ⟨fun _ => rfl, fun _ => handedReplies_handedOn rs⟩
      obtain ⟨junk, rfl⟩ := hp
      have hjunk : junk ≠ [] := by
        rintro rfl
        exact hm (List.append_nil accum).symm
      have hleft : ∀ b q : Bytes, (b ++ q).length - b.length = q.length := fun b q => by
        rw [List.length_append]
        exact Nat.add_sub_cancel_left _ _
      rw [List.append_assoc] at he
      have he' : tmp ++ reads.flatten = junk ++ stream rs := List.append_cancel_left he
      rw [hleft, cutClear_cons (List.length_pos_iff.mpr hjunk)]
      by_cases hin : tmp.length ≤ junk.length
      · obtain ⟨q, rfl⟩ : ∃ q, junk = tmp ++ q := by
          obtain ⟨q, hq⟩ := List.prefix_of_prefix_length_le (List.prefix_append tmp reads.flatten)
            (he' ▸ List.prefix_append junk (stream rs)) hin
          exact ⟨q, hq.symm⟩
        rw [List.append_assoc] at he'
        rw [← List.append_assoc] at hg
        obtain ⟨accum', ha', hg', hreads⟩ := readerReads_inside ha hg htmp
        have ih := readerReads_junk rs reads accum' (accum' ++ q) ha' hg' (List.prefix_append _ _)
          hl' (by rw [List.append_cancel_left he', List.append_assoc])
        rw [hleft] at ih
        rw [if_pos hin, hleft, hreads]
        exact ih
      · obtain ⟨p, rfl⟩ : ∃ p, tmp = junk ++ p := by
          obtain ⟨p, hp⟩ := List.prefix_of_prefix_length_le
            (he' ▸ List.prefix_append junk (stream rs)) (List.prefix_append tmp reads.flatten)
            (Nat.le_of_not_le hin)
          exact ⟨p, hp.symm⟩
        rw [List.append_assoc] at he'
        have hp0 : 0 < p.length := by
          rw [List.length_append] at hin
          omega
        rw [if_neg hin, decide_eq_true_iff, List.length_append, Nat.add_le_add_iff_left]
        exact readerReads_across ha hg hjunk hp0 htmp.2 (fun t h => (hl' t h).2)
          (List.append_cancel_left he')

/-- In a single read nothing is lost. -/
theorem consumeAccum_junk {g : Bytes} (hg : JunkTail g) (rs : List WireRecord) :
    handedReplies (consumeAccum (g ++ stream rs)).1 = handedOn rs := by
  show handedReplies (drain consumeStep (g ++ stream rs)).1 = handedOn rs
  have hwords : handedReplies (drain consumeStep (stream rs)).1 = handedOn rs := by
    rw [← words_stream, drain_whole consumeStep_shrinks _ (words_code rs), words_handed,
      handedReplies_handedOn]
  by_cases hne : g = []
  · rw [hne]
    exact hwords
  · obtain ⟨n, hn⟩ := consumeStep_whole hg hne (stream rs)
    have hdrop : (stream rs).drop (resyncScan (stream rs)) = stream rs := by
      cases rs with
      | nil => rfl
      | cons r rs =>
          obtain ⟨c, s, hs, -⟩ := r.val.wire_head
          have h3 : ¬(stream (r :: rs)).length < 3 := by
            rw [stream_cons, hs]
            simp only [List.length_append, List.length_cons]
            omega
          rw [stream_head (List.append_nil (stream (r :: rs))), if_neg h3]
          rfl
    rw [hdrop] at hn
    rw [drain_item consumeStep_shrinks hn, handedReplies_desync, hwords]

/-- **Where the reads may cut.** In a single read, junk and a stream deliver the stream's records.
    In reads, they deliver the same exactly when no read ends one or two bytes behind the junk
    that it, too, brings a part of. -/
theorem resync_exact (g : Bytes) (hg : JunkPrefix g) (rs : List WireRecord) (reads : List Bytes)
    (hcut : reads.flatten = g ++ stream rs)
    (hlen : ∀ tmp ∈ reads, 1 ≤ tmp.length ∧ tmp.length ≤ 1024) :
    handedReplies (consumeAccum (g ++ stream rs)).1 = handedOn rs ∧
      (handedReplies (readerReads [] reads).1 = handedOn rs ↔ cutClear g.length reads = true) :=
  ⟨consumeAccum_junk hg.tail rs,
    readerReads_junk rs reads [] g short_nil hg.tail List.nil_prefix hlen hcut⟩

/-- An `aro` without a number. -/
def sampleOk : WireRecord :=
  ⟨.ok [], { frameBody := fun _ _ _ e => (nomatch e), line := by decide, tailFits := by decide
             rawFits := by decide, text := trivial }⟩

/-- One byte of junk, an `aro`, and a read that ends behind the 'a'. -/
theorem resync_exact_sample :
    handedReplies (consumeAccum ([0] ++ stream [sampleOk])).1 = handedOn [sampleOk] ∧
    (handedReplies (readerReads [] [[0, 0x61], [0x72, 0x6f, 0x0d, 0x0a]]).1 = handedOn [sampleOk] ↔
      cutClear 1 [[0, 0x61], [0x72, 0x6f, 0x0d, 0x0a]] = true) :=
  resync_exact [0] (Or.inl (by decide)) [sampleOk] [[0, 0x61], [0x72, 0x6f, 0x0d, 0x0a]] rfl
    (by decide)

/-- **The cut shows**: a zero byte and an `aro` deliver the `aro` in one read, and nothing when the
    first read ends behind its 'a'. -/
theorem resync_cut_shows : ∃ (g : Bytes) (rs : List WireRecord) (reads : List Bytes), JunkPrefix g ∧
    reads.flatten = g ++ stream rs ∧ (∀ tmp ∈ reads, 1 ≤ tmp.length ∧ tmp.length ≤ 1024) ∧
    handedReplies (consumeAccum (g ++ stream rs)).1 = handedOn rs ∧
    handedReplies (readerReads [] reads).1 ≠ handedOn rs :=
  ⟨[0], [sampleOk], [[0, 0x61], [0x72, 0x6f, 0x0d, 0x0a]], Or.inl (by decide), rfl, by decide,
    by decide, by decide⟩

end Openport
