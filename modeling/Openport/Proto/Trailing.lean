/-
  File:      Openport/Proto/Trailing.lean
  Subject:   The numbers that stand on a reply line, read off its bytes: all of them,
             at any size.

  The device echoes a command's number as the last number of its reply line.
  `op_parse` keeps the first eight behind the fixed fields, each held at 2^32 - 1
  (`opParse_tail`), so what it keeps last need not be what the line ends with.
-/
import Openport.Proto.Record

namespace Openport

open Lib.Decimal

/-! ## 1. The numbers of a text -/

/-- The numbers of a text with spaces between them, up to its first other byte; `v` is the number
    whose digits are being read. -/
def numbersFrom : Option Nat → Bytes → List Nat
  | none, [] => []
  | some v, [] => [v]
  | none, c :: s =>
    if isDigit c then numbersFrom (some (digitVal c)) s
    else if c = 0x20 then numbersFrom none s
    else []
  | some v, c :: s =>
    if isDigit c then numbersFrom (some (v * 10 + digitVal c)) s
    else v :: if c = 0x20 then numbersFrom none s else []

theorem numbersFrom_none (c : UInt8) (s : Bytes) : numbersFrom none (c :: s) =
    if isDigit c then numbersFrom (some (digitVal c)) s
    else if c = 0x20 then numbersFrom none s else [] := by
  rw [numbersFrom]

theorem numbersFrom_some (v : Nat) (c : UInt8) (s : Bytes) : numbersFrom (some v) (c :: s) =
    if isDigit c then numbersFrom (some (v * 10 + digitVal c)) s
    else v :: if c = 0x20 then numbersFrom none s else [] := by
  rw [numbersFrom]

/-- How many numbers stand before the trailing ones, by the verb of the reply. -/
def fixedNumbers : UInt8 → Nat
  | 0x65 | 0x77 => 1
  | 0x72 | 0x6d | 0x66 | 0x79 => 2
  | 0x67 => 3
  | _ => 0

/-- The numbers behind the fixed fields of a reply line, which begins with "ar" and the verb. -/
def trailing (line : Bytes) : List Nat :=
  (numbersFrom none (line.drop 3)).drop (fixedNumbers (line.getD 2 0))

/-- A number as `parse_u32` holds it. -/
def held (n : Nat) : UInt32 := UInt32.ofNat (min n 0xFFFFFFFF)

/-! ## 2. What `parse_u32` and `parse_tail` make of them -/

theorem numbersFrom_skip (s : Bytes) : numbersFrom none (skipSpaces s) = numbersFrom none s := by
  unfold skipSpaces
  induction s with
  | nil => rfl
  | cons c s ih =>
      rw [List.dropWhile_cons]
      by_cases hc : c = 0x20
      · subst hc
        exact ih
      · rw [if_neg (by simpa using hc)]

/-- The loop of `parse_u32` reads the number on, held at 2^32 - 1. -/
theorem parseU32Loop_numbers : ∀ (s : Bytes) (w : Nat), ∃ n,
    numbersFrom (some w) s = n :: numbersFrom none (parseU32Loop (min w 0xFFFFFFFF) s).2 ∧
      (parseU32Loop (min w 0xFFFFFFFF) s).1 = min n 0xFFFFFFFF
  | [], w => ⟨w, rfl, rfl⟩
  | c :: s, w => by
      unfold parseU32Loop
      rw [numbersFrom_some]
      by_cases hc : isDigit c = true
      · rw [if_pos hc, if_pos hc]
        have hheld : min (min w 0xFFFFFFFF * 10 + digitVal c) 0xFFFFFFFF =
            min (w * 10 + digitVal c) 0xFFFFFFFF := by omega
        rw [hheld]
        exact parseU32Loop_numbers s (w * 10 + digitVal c)
      · rw [if_neg hc, if_neg hc]
        refine ⟨w, ?_, rfl⟩
        rw [numbersFrom_none, if_neg hc]

/-- **What `parse_u32` reads is the first number.** -/
theorem parseU32_numbers {s rest : Bytes} {v : UInt32} (h : parseU32 s = some (v, rest)) :
    ∃ n, numbersFrom none s = n :: numbersFrom none rest ∧ v = held n := by
  cases s with
  | nil => cases h
  | cons c s =>
      unfold parseU32 at h
      by_cases hc : isDigit c = true
      · simp only [if_pos hc] at h
        cases h
        unfold parseU32Loop
        rw [numbersFrom_none, if_pos hc, if_pos hc, Nat.zero_mul, Nat.zero_add]
        obtain ⟨n, hn, hv⟩ := parseU32Loop_numbers s (digitVal c)
        exact ⟨n, hn, congrArg UInt32.ofNat hv⟩
      · simp only [if_neg hc] at h
        cases h

/-- Where `parse_u32` finds no digit there is no number. -/
theorem parseU32_noNumbers {s : Bytes} (h : parseU32 (skipSpaces s) = none) :
    numbersFrom none s = [] := by
  rw [← numbersFrom_skip]
  cases hs : skipSpaces s with
  | nil => rfl
  | cons c t =>
      rw [hs] at h
      have hc : ¬isDigit c = true := by
        intro e
        unfold parseU32 at h
        simp only [if_pos e] at h
        cases h
      have hspace : c ≠ 0x20 := by
        intro e
        have hnot := List.head?_dropWhile_not (· == (0x20 : UInt8)) s
        rw [show s.dropWhile (· == 0x20) = c :: t from hs, e] at hnot
        simp at hnot
      rw [numbersFrom_none, if_neg hc, if_neg hspace]

theorem parseU32Loop_length : ∀ (s : Bytes) (v : Nat), (parseU32Loop v s).2.length ≤ s.length
  | [], _ => Nat.le_refl 0
  | c :: s, v => by
      unfold parseU32Loop
      split
      · exact Nat.le_succ_of_le (parseU32Loop_length s _)
      · exact Nat.le_refl _

/-- A number takes a byte at least. -/
theorem parseU32_length {s rest : Bytes} {v : UInt32} (h : parseU32 s = some (v, rest)) :
    rest.length < s.length := by
  cases s with
  | nil => cases h
  | cons c s =>
      unfold parseU32 at h
      by_cases hc : isDigit c = true
      · simp only [if_pos hc] at h
        cases h
        unfold parseU32Loop
        rw [if_pos hc]
        exact Nat.lt_succ_of_le (parseU32Loop_length s _)
      · simp only [if_neg hc] at h
        cases h

theorem parseTailLoop_numbers : ∀ (fuel : Nat) (s : Bytes) (tail : List UInt32),
    s.length ≤ fuel → tail.length ≤ tailMax →
    parseTailLoop fuel s tail = (tail ++ (numbersFrom none s).map held).take tailMax
  | 0, s, tail, hf, ht => by
      have hs : s = [] := List.length_eq_zero_iff.mp (Nat.le_zero.mp hf)
      subst hs
      show tail = (tail ++ []).take tailMax
      rw [List.append_nil, List.take_of_length_le ht]
  | fuel + 1, s, tail, hf, ht => by
      unfold parseTailLoop
      cases hp : parseU32 (skipSpaces s) with
      | none =>
          rw [parseU32_noNumbers hp]
          show tail = (tail ++ []).take tailMax
          rw [List.append_nil, List.take_of_length_le ht]
      | some p =>
          obtain ⟨v, rest⟩ := p
          obtain ⟨n, hn, rfl⟩ := parseU32_numbers hp
          rw [numbersFrom_skip] at hn
          have hskip : (skipSpaces s).length ≤ s.length := (List.dropWhile_suffix _).length_le
          have hrest : rest.length ≤ fuel := by
            have := parseU32_length hp
            omega
          rw [hn]
          by_cases hlt : tail.length < tailMax
          · simp only [if_pos hlt]
            rw [parseTailLoop_numbers fuel rest _ hrest
              (by rw [List.length_append, List.length_singleton]; omega), List.append_assoc]
            rfl
          · have hfull : tail.length = tailMax := by omega
            simp only [if_neg hlt]
            rw [parseTailLoop_numbers fuel rest tail hrest ht, List.take_left' hfull,
              List.take_left' hfull]

/-- **`parse_tail` keeps the first eight numbers**, each held at 2^32 - 1. -/
theorem parseTail_numbers (s : Bytes) :
    parseTail s = ((numbersFrom none s).map held).take tailMax :=
  parseTailLoop_numbers s.length s [] (Nat.le_refl _) (Nat.zero_le _)

/-! ## 3. What `op_parse` keeps of a line -/

/-- Behind a byte that is neither digit nor space no number is read. -/
theorem numbersFrom_stop {c : UInt8} (hc : isDigit c = false) (hs : c ≠ 0x20) (t : Bytes) :
    ∀ (s : Bytes) (v : Option Nat), numbersFrom v (s ++ c :: t) = numbersFrom v s
  | [], none => by
      rw [List.nil_append, numbersFrom_none, if_neg (by rw [hc]; decide), if_neg hs]
      rfl
  | [], some v => by
      rw [List.nil_append, numbersFrom_some, if_neg (by rw [hc]; decide), if_neg hs]
      rfl
  | d :: s, none => by
      rw [List.cons_append, numbersFrom_none, numbersFrom_none, numbersFrom_stop hc hs t s,
        numbersFrom_stop hc hs t s]
  | d :: s, some v => by
      rw [List.cons_append, numbersFrom_some, numbersFrom_some, numbersFrom_stop hc hs t s,
        numbersFrom_stop hc hs t s]

/-- A reply whose trailing numbers `parse_ascii` keeps. -/
def OpReplyKind.tailed : OpReplyKind → Bool
  | .incomplete | .info | .frame | .junk => false
  | _ => true

/-- **`parse_ascii` keeps the first eight of a line's trailing numbers.** -/
theorem parseAscii_tail (verb : UInt8) (s : Bytes)
    (h : (parseAscii (verb :: s)).kind.tailed = true) :
    (parseAscii (verb :: s)).tail =
      (((numbersFrom none s).drop (fixedNumbers verb)).map held).take tailMax := by
  -- a field that stands directly behind the verb, or behind spaces
  have first : ∀ {s rest : Bytes} {v : UInt32}, parseU32 s = some (v, rest) →
      (numbersFrom none s).drop 1 = numbersFrom none rest := fun hp => by
    obtain ⟨n, hn, -⟩ := parseU32_numbers hp
    rw [hn]
    rfl
  have next : ∀ {s rest : Bytes} {v : UInt32}, parseU32 (skipSpaces s) = some (v, rest) →
      (numbersFrom none s).drop 1 = numbersFrom none rest := fun hp => by
    rw [← numbersFrom_skip]
    exact first hp
  have two : ∀ l : List Nat, l.drop 2 = (l.drop 1).drop 1 := fun l => by rw [List.drop_drop]
  have three : ∀ l : List Nat, l.drop 3 = ((l.drop 1).drop 1).drop 1 := fun l => by
    rw [List.drop_drop, List.drop_drop]
  unfold parseAscii at h ⊢
  simp only at h ⊢
  split at h
  · exact parseTail_numbers s
  · split at h
    · cases h
    rename_i hp
    rw [show fixedNumbers 0x65 = 1 from rfl, next hp]
    exact parseTail_numbers _
  · cases h
  · split at h
    · cases h
    rename_i hp
    split at h
    · cases h
    rename_i hq
    rw [show fixedNumbers 0x72 = 2 from rfl, two, next hp, next hq]
    exact parseTail_numbers _
  · split at h
    · cases h
    rename_i hp
    split at h
    · cases h
    rename_i hq
    rw [show fixedNumbers 0x6d = 2 from rfl, two, first hp, next hq]
    exact parseTail_numbers _
  · split at h
    · cases h
    rename_i hp
    split at h
    · cases h
    rename_i hq
    rw [show fixedNumbers 0x66 = 2 from rfl, two, first hp, next hq]
    exact parseTail_numbers _
  · split at h
    · cases h
    rename_i hp
    split at h
    · cases h
    rename_i hq
    split at h
    · cases h
    rename_i hr
    rw [show fixedNumbers 0x67 = 3 from rfl, three, first hp, next hq, next hr]
    exact parseTail_numbers _
  · split at h
    · cases h
    rename_i hp
    split at h
    · cases h
    rename_i hq
    split at h
    · cases h
    rw [if_neg ‹_›, show fixedNumbers 0x79 = 2 from rfl, two, first hp, next hq]
    exact parseTail_numbers _
  · split at h
    · cases h
    rename_i hp
    rw [show fixedNumbers 0x77 = 1 from rfl, first hp]
    exact parseTail_numbers _
  · cases h

/-- A text with a CR LF is what stands before the first, the CR LF, and a rest. -/
theorem findCrLf_split : ∀ {s : Bytes} {k : Nat}, findCrLf s = some k →
    ∃ body rest, s = body ++ 0x0d :: 0x0a :: rest ∧ body.length = k
  | [], _, h => by cases h
  | [_], _, h => by cases h
  | c :: d :: t, k, h => by
      change (if c = 0x0d ∧ d = 0x0a then some 0 else (findCrLf (d :: t)).map (· + 1)) = some k at h
      by_cases hcd : c = 0x0d ∧ d = 0x0a
      · rw [if_pos hcd] at h
        cases h
        exact ⟨[], t, by rw [hcd.1, hcd.2]; rfl, rfl⟩
      · rw [if_neg hcd] at h
        obtain ⟨j, hj, rfl⟩ := Option.map_eq_some_iff.mp h
        obtain ⟨body, rest, hs, hl⟩ := findCrLf_split hj
        exact ⟨c :: body, rest, by rw [hs]; rfl, by rw [List.length_cons, hl]⟩

/-- The trailing numbers of a line do not depend on what is taken behind it. -/
theorem trailing_line (verb : UInt8) (body rest : Bytes) {n : Nat} (hn : body.length + 5 ≤ n) :
    trailing ((0x61 :: 0x72 :: verb :: (body ++ 0x0d :: 0x0a :: rest)).take n) =
      (numbersFrom none body).drop (fixedNumbers verb) := by
  obtain ⟨m, rfl⟩ : ∃ m, n = m + 3 := ⟨n - 3, by omega⟩
  obtain ⟨j, rfl⟩ : ∃ j, m = body.length + (j + 1) := ⟨m - body.length - 1, by omega⟩
  have htake : (body ++ 0x0d :: 0x0a :: rest).take (body.length + (j + 1)) =
      body ++ 0x0d :: (0x0a :: rest).take j := by
    rw [List.take_length_add_append, List.take_succ_cons]
  unfold trailing
  show ((numbersFrom none ((body ++ 0x0d :: 0x0a :: rest).take _)).drop (fixedNumbers verb)) = _
  rw [htake, numbersFrom_stop (by decide) (by decide)]

/-- A frame has no trailing numbers. -/
theorem opParseFrame_untailed (ch : Nat) (t : Bytes) :
    (opParseFrame ch t).2.kind.tailed = false := by
  unfold opParseFrame
  split
  · rfl
  simp only
  split
  · rfl
  split
  · rfl
  · rw [frameReply_kind]
    rfl

/-- The line is taken whole, and its trailing numbers are kept. -/
theorem opParseLine_tail {verb : UInt8} {t : Bytes}
    (hk : (opParseLine (verb :: t)).2.kind.tailed = true) :
    (opParseLine (verb :: t)).2.tail =
      ((trailing ((0x61 :: 0x72 :: verb :: t).take (opParseLine (verb :: t)).1)).map held).take
        tailMax := by
  unfold opParseLine at hk ⊢
  cases hf : findCrLf (verb :: t) with
  | none =>
      rw [hf] at hk
      simp only at hk
      split at hk <;> cases hk
  | some k =>
      obtain ⟨body, rest, hs, rfl⟩ := findCrLf_split hf
      rw [hf] at hk
      simp only at hk ⊢
      rw [hs, List.take_left] at hk ⊢
      cases body with
      | nil =>
          rw [if_neg fun e => nomatch e.1] at hk
          cases hk
      | cons c body =>
          obtain ⟨rfl, rfl⟩ := List.cons.inj hs
          have hline : ∀ n, body.length + 5 ≤ n →
              (parseAscii (verb :: body)).kind.tailed = true →
              (parseAscii (verb :: body)).tail = ((trailing ((0x61 :: 0x72 ::
                (verb :: body ++ 0x0d :: 0x0a :: rest)).take n)).map held).take tailMax :=
            fun n hn ht => by
              rw [parseAscii_tail verb body ht, ← trailing_line verb body rest hn]
              rfl
          split at hk
          · rename_i hraw
            rw [if_pos hraw]
            split at hk
            · cases hk
            · rename_i hroom
              rw [if_neg hroom]
              exact hline _ (by rw [List.length_cons]; omega) hk
          · rename_i hraw
            rw [if_neg hraw]
            exact hline _ (Nat.le_refl _) hk

/-- **`op_parse` keeps the first eight trailing numbers** of the line it takes. -/
theorem opParse_tail {buf : Bytes} (h0 : (opParse buf).1 ≠ 0)
    (hk : (opParse buf).2.kind.tailed = true) :
    (opParse buf).2.tail = ((trailing (buf.take (opParse buf).1)).map held).take tailMax := by
  have hj : (opParse buf).2.kind ≠ .junk := fun e => by
    rw [e] at hk
    cases hk
  obtain ⟨c, t, hbuf, ⟨-, hp⟩ | ⟨-, hp⟩⟩ := opParse_inv h0 hj
  · rw [hp, opParseFrame_untailed] at hk
    cases hk
  · rw [hp] at hk ⊢
    rw [hbuf]
    exact opParseLine_tail hk

end Openport
