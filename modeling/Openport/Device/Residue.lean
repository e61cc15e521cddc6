/-
  File:      Openport/Device/Residue.lean
  Subject:   How much the reader keeps between two reads, whatever the bytes are.

  A buffer waits for one of four reasons: it is too short to tell, a frame is
  incomplete, a line has no CR LF yet, or the raw bytes of an `ary` are not all
  there. The first three hold it under 259 bytes. An `ary` line is found in the
  read its CR LF arrives in, so it is at most 258 + 1024 bytes long, and waits
  for 255 more. Hence the accumulator never fills, nothing a read brings is
  clipped, and nothing is thrown away as an overflow (`readerRead_short`).
-/
import Openport.Proto.Record

namespace Openport

open Lib.Decimal Lib.Framing

/-! ## 1. Why a buffer waits -/

/-- The three shapes of a buffer that waits. -/
theorem opParse_waits {buf : Bytes} (h : (opParse buf).1 = 0) :
    buf.length ≤ 2 ∨
    (∃ c t, buf = 0x61 :: 0x72 :: c :: t ∧ isDigit c = true ∧
      (opParseFrame (digitVal c) t).1 = 0) ∨
    ∃ c t, buf = 0x61 :: 0x72 :: c :: t ∧ isDigit c = false ∧ (opParseLine (c :: t)).1 = 0 := by
  rcases buf with _ | ⟨b0, _ | ⟨b1, _ | ⟨c, t⟩⟩⟩
  · exact Or.inl (by decide)
  · exact Or.inl (Nat.le_succ 1)
  · exact Or.inl (Nat.le_refl 2)
  unfold opParse at h
  by_cases h0 : b0 = 0x61
  · by_cases h1 : b1 = 0x72
    · subst h0 h1
      simp only [ne_eq, not_true, if_false] at h
      cases hc : isDigit c with
      | true =>
          rw [hc, if_pos rfl] at h
          exact Or.inr (Or.inl ⟨c, t, rfl, hc, h⟩)
      | false =>
          rw [hc, if_neg (by decide)] at h
          exact Or.inr (Or.inr ⟨c, t, rfl, hc, h⟩)
    · simp [h0, h1] at h
  · simp [h0] at h

/-- A frame that waits is short. -/
theorem opParseFrame_waits {ch : Nat} {t : Bytes} (h : (opParseFrame ch t).1 = 0) :
    t.length ≤ 255 := by
  cases t with
  | nil => exact Nat.zero_le _
  | cons len s =>
      unfold opParseFrame at h
      simp only at h
      have hl := len.toNat_lt
      by_cases hw : s.length < len.toNat
      · rw [List.length_cons]
        omega
      · rw [if_neg hw] at h
        split at h
        · exact absurd h (by simp)
        · exact absurd h (by simp)

/-- `ary` announces no more than 255 bytes, else its line is junk. -/
theorem parseAscii_announces {body : Bytes} (h : (parseAscii body).kind = .init)
    (hy : body.head? = some 0x79) : (parseAscii body).a.toNat ≤ 255 := by
  cases body with
  | nil => cases hy
  | cons verb s =>
      cases hy
      cases h1 : parseU32 s with
      | none => simp [parseAscii, h1, OpReply.junk] at h
      | some p =>
          obtain ⟨ch, s'⟩ := p
          cases h2 : parseU32 (skipSpaces s') with
          | none => simp [parseAscii, h1, h2, OpReply.junk] at h
          | some p =>
              obtain ⟨count, s''⟩ := p
              by_cases h3 : 255 < count
              · simp [parseAscii, h1, h2, h3, OpReply.junk] at h
              · have hle := UInt32.le_iff_toNat_le.mp (UInt32.not_lt.mp h3)
                simpa [parseAscii, h1, h2, h3] using hle

/-- A line that waits has no CR LF and is short, or is an `ary` some raw bytes are missing of. -/
theorem opParseLine_waits {s : Bytes} (h : (opParseLine s).1 = 0) :
    (findCrLf s = none ∧ s.length + 2 ≤ opCmdMax * 4) ∨
    ∃ k, findCrLf s = some k ∧ (parseAscii (s.take k)).kind = .init ∧ s.head? = some 0x79 ∧
      s.length < k + 2 + (parseAscii (s.take k)).a.toNat := by
  unfold opParseLine at h
  cases hf : findCrLf s with
  | none =>
      rw [hf] at h
      simp only at h
      by_cases hg : s.length + 2 > opCmdMax * 4
      · rw [if_pos hg] at h
        cases h
      · exact Or.inl ⟨rfl, Nat.le_of_not_lt hg⟩
  | some k =>
      rw [hf] at h
      simp only at h
      by_cases hy : (parseAscii (s.take k)).kind = .init ∧ s.head? = some 0x79
      · rw [if_pos hy] at h
        by_cases hw : s.length < k + 2 + (parseAscii (s.take k)).a.toNat
        · exact Or.inr ⟨k, rfl, hy.1, hy.2, hw⟩
        · rw [if_neg hw] at h
          simp at h
      · rw [if_neg hy] at h
        simp at h

/-! ## 2. The bound -/

/-- Longest line of an `ary` that can be waiting for its raw bytes: what is kept without a
    CR LF, and one read. -/
def aryLineMax : Nat := 1280

/-- Most the reader keeps. -/
def residueMax : Nat := aryLineMax + 2 + 255 + 1

/-- A buffer that waits, short or with a line end near its beginning. -/
def Short (accum : Bytes) : Prop :=
  (opParse accum).1 = 0 ∧
    (accum.length ≤ 258 ∨ ∃ k ≤ aryLineMax, findCrLf (accum.drop 2) = some k)

theorem short_nil : Short [] := ⟨rfl, Or.inl (Nat.zero_le _)⟩

/-- A waiting buffer longer than any frame is an `ary` waiting for its raw bytes. -/
theorem waits_long {buf : Bytes} (h : (opParse buf).1 = 0) (hl : 258 < buf.length) :
    ∃ c t k, buf = 0x61 :: 0x72 :: c :: t ∧ isDigit c = false ∧ findCrLf (c :: t) = some k ∧
      (parseAscii ((c :: t).take k)).kind = .init ∧ c = 0x79 ∧
      (c :: t).length < k + 2 + (parseAscii ((c :: t).take k)).a.toNat ∧
      (parseAscii ((c :: t).take k)).a.toNat ≤ 255 := by
  rcases opParse_waits h with h' | ⟨c, t, rfl, hd, h'⟩ | ⟨c, t, rfl, hd, h'⟩
  · omega
  · have := opParseFrame_waits h'
    simp only [List.length_cons] at hl
    omega
  · rcases opParseLine_waits h' with ⟨-, h1⟩ | ⟨k, hk, h1, h2, h3⟩
    · have h256 : (c :: t).length + 2 ≤ 256 := h1
      simp only [List.length_cons] at hl h256
      omega
    · have hc : c = 0x79 := Option.some.inj h2
      have hhead : ((c :: t).take k).head? = some 0x79 := by
        cases k with
        | zero =>
            rw [List.take_zero] at h1
            cases h1
        | succ k => exact h2
      exact ⟨c, t, k, rfl, hd, hk, h1, hc, h3, parseAscii_announces h1 hhead⟩

theorem Short.length_le {accum : Bytes} (h : Short accum) : accum.length ≤ residueMax := by
  show accum.length ≤ 1538
  rcases h.2 with hl | ⟨k, hk, hf⟩
  · omega
  by_cases hl : 258 < accum.length
  · obtain ⟨c, t, k', rfl, -, hk', -, -, hlt, ha⟩ := waits_long h.1 hl
    have e : some k = some k' := hf.symm.trans hk'
    cases e
    have hk'' : k ≤ 1280 := hk
    simp only [List.length_cons] at hlt ⊢
    omega
  · omega

/-- A turn of the loop leaves an end of the buffer. -/
theorem consumeStep_suffix (s : Bytes) (i : Handed) (rest : Bytes)
    (h : consumeStep s = some (i, rest)) : rest <:+ s := by
  unfold consumeStep at h
  simp only at h
  split at h
  · cases h
  split at h
  · obtain ⟨-, rfl⟩ := Prod.mk.inj (Option.some.inj h)
    exact List.drop_suffix _ _
  · obtain ⟨-, rfl⟩ := Prod.mk.inj (Option.some.inj h)
    exact List.drop_suffix _ _
  · obtain ⟨-, rfl⟩ := Prod.mk.inj (Option.some.inj h)
    exact List.drop_suffix _ _

theorem consumeStep_none {buf : Bytes} (h : consumeStep buf = none) : (opParse buf).1 = 0 := by
  unfold consumeStep at h
  simp only at h
  split at h
  · assumption
  split at h <;> cases h

/-- An `ary` that waits for raw bytes takes all it has, once they are there. -/
theorem ary_extended {c : UInt8} {t p : Bytes} {k : Nat} (hd : isDigit c = false)
    (hk : findCrLf (c :: t) = some k) (hi : (parseAscii ((c :: t).take k)).kind = .init)
    (hc : c = 0x79) (hlt : (c :: t).length < k + 2 + (parseAscii ((c :: t).take k)).a.toNat)
    (h : consumeStep (0x61 :: 0x72 :: c :: t ++ p) ≠ none) :
    ∃ i rest, consumeStep (0x61 :: 0x72 :: c :: t ++ p) = some (i, rest) ∧ rest <:+ p := by
  have hkp := findCrLf_append p hk
  have htake : ((c :: t) ++ p).take k = (c :: t).take k := by
    have := findCrLf_lt hk
    exact List.take_append_of_le_length (by omega)
  have hparse : opParse (0x61 :: 0x72 :: c :: t ++ p) = opParseLine ((c :: t) ++ p) :=
    opParse_verb hd
  unfold opParseLine at hparse
  rw [hkp] at hparse
  simp only [htake] at hparse
  rw [if_pos ⟨hi, by rw [hc]; rfl⟩] at hparse
  by_cases hw : ((c :: t) ++ p).length < k + 2 + (parseAscii ((c :: t).take k)).a.toNat
  · rw [if_pos hw] at hparse
    exact absurd (consumeStep_wait (by rw [hparse])) h
  · rw [if_neg hw] at hparse
    refine ⟨_, _, consumeStep_reply hparse (by omega) (by simp only [hi]; decide)
      (by simp only [hi]; decide), ?_⟩
    -- what is taken reaches behind what was there
    have hsplit : 0x61 :: 0x72 :: c :: t ++ p = (0x61 :: 0x72 :: c :: t) ++ p := rfl
    rw [hsplit, List.drop_append, List.drop_of_length_le, List.nil_append]
    · exact List.drop_suffix _ _
    · simp only [List.length_cons] at hlt ⊢
      omega

/-- **What a read leaves is short again.** -/
theorem short_drain {accum tmp : Bytes} (h : Short accum) (ht : tmp.length ≤ 1024) :
    Short (drain consumeStep (accum ++ tmp)).2 := by
  have hwait : (opParse (drain consumeStep (accum ++ tmp)).2).1 = 0 :=
    consumeStep_none (drain_rest consumeStep_shrinks _)
  have hsuf := drain_suffix consumeStep_shrinks consumeStep_suffix (accum ++ tmp)
  refine ⟨hwait, ?_⟩
  -- a waiting buffer of at most 1284 bytes has its line end, if any, early enough
  have hearly : ∀ R : Bytes, (opParse R).1 = 0 → R.length ≤ 1284 →
      R.length ≤ 258 ∨ ∃ k ≤ aryLineMax, findCrLf (R.drop 2) = some k := by
    intro R hR hl
    by_cases hlong : 258 < R.length
    · obtain ⟨c, t, k, rfl, -, hk, -⟩ := waits_long hR hlong
      have hk2 := findCrLf_lt hk
      refine Or.inr ⟨k, ?_, hk⟩
      simp only [List.length_cons] at hl hk2
      show k ≤ 1280
      omega
    · exact Or.inl (Nat.le_of_not_lt hlong)
  by_cases hlong : 258 < accum.length
  · obtain ⟨c, t, k, rfl, hd, hk, hi, hc, hlt, -⟩ := waits_long h.1 hlong
    cases hstep : consumeStep (0x61 :: 0x72 :: c :: t ++ tmp) with
    | none =>
        rw [drain_wait consumeStep_shrinks hstep]
        rcases h.2 with hs | ⟨k', hk', hf⟩
        · omega
        · exact Or.inr ⟨k', hk', findCrLf_append tmp hf⟩
    | some q =>
        obtain ⟨i, rest, e, hrest⟩ :=
          ary_extended hd hk hi hc hlt (by rw [hstep]; exact fun e => nomatch e)
        rw [drain_item consumeStep_shrinks e] at hwait ⊢
        have hlen := ((drain_suffix consumeStep_shrinks consumeStep_suffix rest).trans
          hrest).length_le
        refine hearly _ hwait ?_
        show (drain consumeStep rest).2.length ≤ 1284
        omega
  · have hlen := hsuf.length_le
    rw [List.length_append] at hlen
    exact hearly _ hwait (by omega)

/-- **No read is clipped and none overflows.** Whatever the device sends, a read of at most 1024
    bytes finds room, and the accumulator stays far below its capacity. -/
theorem readerRead_short {accum tmp : Bytes} (h : Short accum) (ht : tmp.length ≤ 1024) :
    readerRead accum tmp = drain consumeStep (accum ++ tmp) ∧ Short (readerRead accum tmp).2 := by
  have hs := short_drain h ht
  have ha : accum.length ≤ 1538 := h.length_le
  have hr : (drain consumeStep (accum ++ tmp)).2.length ≤ 1538 := hs.length_le
  have e : readerRead accum tmp = drain consumeStep (accum ++ tmp) := by
    unfold readerRead
    rw [List.take_of_length_le]
    · unfold consumeAccum
      simp only
      rw [if_neg]
      intro e
      rw [e] at hr
      exact absurd hr (by decide)
    · show tmp.length ≤ 4387 - accum.length
      omega
  rw [e]
  exact ⟨rfl, hs⟩

end Openport
