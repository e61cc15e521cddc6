/-
  File:      Openport/Proto/Checked.lean
  Subject:   `op_parse` and `op_resync_offset` with their pointers, sizes and loops,
             every load checked, and that they compute what `Proto/Reply` says.

  `Proto/Reply` decodes lists. Here the same source functions run over a buffer
  and offsets into it: `none` is a load outside the buffer, a size that wraps
  below zero or a loop that has not ended. A reply points at its text and data
  (`Slice`) as the C struct does. `opParse_checked` says that on every buffer
  the checked run succeeds, and with which reply.
-/
import Openport.Lib.Loads
import Openport.Proto.Record

namespace Openport

open Lib.Decimal Lib.Loads

/-! ## 1. Pointers into the buffer -/

/-- `text` and `text_len`, or `data` and `data_len`. -/
structure Slice where
  off : Nat
  len : Nat
  deriving DecidableEq, Repr

/-- The bytes a slice points at. -/
def Slice.bytes (buf : Bytes) (s : Slice) : Bytes := (buf.drop s.off).take s.len

/-- `op_reply` with its pointers as places in the buffer; the reply's own `text` and `data`
    are not used. -/
structure Parsed where
  reply : OpReply
  text : Option Slice := none
  data : Option Slice := none
  deriving DecidableEq, Repr

def Parsed.incomplete : Parsed := { reply := .incomplete }
def Parsed.junk : Parsed := { reply := .junk }

/-- The reply as its reader sees it, through the pointers. -/
def Parsed.view (buf : Bytes) (r : Parsed) : OpReply :=
  { r.reply with text := r.text.map (Slice.bytes buf), data := r.data.map (Slice.bytes buf) }

/-! ## 2. Numbers, spaces and tokens -/

/-- The digit loop of `parse_u32`, with `left` for `len - i`: `i` and `v` at its end. -/
def parseU32LoopAt (buf : Bytes) (s : Nat) : Nat → Nat → Nat → Option (Nat × Nat)
  | 0, i, v => some (i, v)
  | left + 1, i, v =>
    (readAt buf (s + i)).bind fun c =>
      if isDigit c then parseU32LoopAt buf s left (i + 1) (min (v * 10 + digitVal c) 0xFFFFFFFF)
      else some (i, v)

/-- `parse_u32(buf + s, len, &v)`: what it returns, and `v`, which its callers begin at zero. -/
def parseU32At (buf : Bytes) (s len : Nat) : Option (Nat × UInt32) :=
  (parseU32LoopAt buf s len 0 0).map fun r => (r.1, UInt32.ofNat r.2)

/-- `skip_spaces(buf + s, len)`. -/
def skipSpacesAt (buf : Bytes) (s len : Nat) : Option Nat := scanAt (· == 0x20) buf len s

/-- `i += skip_spaces(body + i, n - i)`. -/
def afterSpaces (buf : Bytes) (body n i : Nat) : Option Nat :=
  (sizeSub n i).bind fun left => (skipSpacesAt buf (body + i) left).map (i + ·)

/-- `got = parse_u32(body + i, n - i, &v)`. -/
def numberAt (buf : Bytes) (body n i : Nat) : Option (Nat × UInt32) :=
  (sizeSub n i).bind fun left => parseU32At buf (body + i) left

/-- The loop of `parse_tail`; running out of fuel is not ending. -/
def parseTailAt (buf : Bytes) (body n : Nat) : Nat → Nat → List UInt32 → Option (List UInt32)
  | 0, _, _ => none
  | fuel + 1, i, tail =>
    (afterSpaces buf body n i).bind fun i =>
      if n ≤ i then some tail
      else
        (numberAt buf body n i).bind fun r =>
          if r.1 = 0 then some tail
          else parseTailAt buf body n fuel (i + r.1)
            (if tail.length < tailMax then tail ++ [r.2] else tail)

/-! ## 3. Reply lines -/

/-- A reply line decoded as far as `i`: what is done from there on. -/
abbrev AsciiRest := Nat → Option Parsed

/-- Skip the spaces at `i`, then go on. -/
def spacesThen (buf : Bytes) (body n : Nat) (k : AsciiRest) : AsciiRest := fun i =>
  (afterSpaces buf body n i).bind k

/-- A fixed field: the number at `i`, without which the line is junk, then go on behind it. -/
def fieldThen (buf : Bytes) (body n : Nat) (k : UInt32 → AsciiRest) : AsciiRest := fun i =>
  (numberAt buf body n i).bind fun r => if r.1 = 0 then some .junk else k r.2 (i + r.1)

/-- `parse_tail` at `i`, which ends the line. -/
def tailThen (buf : Bytes) (body n : Nat) (k : List UInt32 → OpReply) : AsciiRest := fun i =>
  (parseTailAt buf body n (n + 1) i []).map fun tail => { reply := k tail }

/-- `parse_ascii(buf + body, n)`. -/
def parseAsciiAt (buf : Bytes) (body n : Nat) : Option Parsed :=
  if n = 0 then some .junk
  else
    (readAt buf body).bind fun verb =>
      match verb with
      | 0x6f => tailThen buf body n (fun tail => { kind := .ok, tail := tail }) 1
      | 0x65 =>
        -- the source calls `parse_u32` twice here, on the same bytes
        spacesThen buf body n
          (fieldThen buf body n fun code => tailThen buf body n fun tail =>
            { kind := .error, errorCode := code, tail := tail,
              hasDetail := decide (1 ≤ tail.length), detail := tail.headD 0 }) 1
      | 0x69 =>
        spacesThen buf body n (fun i => (sizeSub n i).map fun len =>
          { reply := { kind := .info }, text := some ⟨body + i, len⟩ }) 1
      | 0x72 =>
        spacesThen buf body n (fieldThen buf body n fun pin =>
          spacesThen buf body n (fieldThen buf body n fun mv =>
            tailThen buf body n fun tail => { kind := .pin, a := pin, b := mv, tail := tail })) 1
      | 0x6d =>
        fieldThen buf body n (fun ch =>
          spacesThen buf body n (fieldThen buf body n fun id => tailThen buf body n fun tail =>
            { kind := .periodic, channel := ch.toNat, a := id, tail := tail })) 1
      | 0x66 =>
        fieldThen buf body n (fun ch =>
          spacesThen buf body n (fieldThen buf body n fun id => tailThen buf body n fun tail =>
            { kind := .filter, channel := ch.toNat, a := id, tail := tail })) 1
      | 0x67 =>
        fieldThen buf body n (fun ch =>
          spacesThen buf body n (fieldThen buf body n fun param =>
            spacesThen buf body n (fieldThen buf body n fun value =>
              tailThen buf body n fun tail =>
                { kind := .config, channel := ch.toNat, a := param, b := value,
                  tail := tail }))) 1
      | 0x79 =>
        fieldThen buf body n (fun ch =>
          spacesThen buf body n (fieldThen buf body n fun count i =>
            if 255 < count then some .junk
            else tailThen buf body n (fun tail =>
              { kind := .init, channel := ch.toNat, a := count, tail := tail }) i)) 1
      | 0x77 =>
        fieldThen buf body n (fun ch => tailThen buf body n fun tail =>
          { kind := .init, channel := ch.toNat, tail := tail }) 1
      | _ => some .junk

/-- `buf[i] == '\r' && buf[i + 1] == '\n'`. -/
def crLfAt (buf : Bytes) (i : Nat) : Option Bool :=
  (readAt buf i).bind fun c =>
    if c = 0x0d then (readAt buf (i + 1)).map fun d => decide (d = 0x0a) else some false

/-- The ASCII branch of `op_parse`; its loop is over every `i` from 2 with `i + 1 < len`. -/
def opParseLineAt (buf : Bytes) : Option (Nat × Parsed) :=
  (findAt (crLfAt buf) (buf.length - 1 - 2) 2).bind fun found =>
    match found with
    | some i =>
      (sizeSub i 2).bind fun n => (parseAsciiAt buf 2 n).bind fun out =>
        (if out.reply.kind = .init then (readAt buf 2).map fun c => decide (c = 0x79)
          else some false).bind fun ary =>
          if ary then
            let want := out.reply.a.toNat
            if buf.length < i + 2 + want then some (0, .incomplete)
            else some (i + 2 + want, { out with data := some ⟨i + 2, want⟩ })
          else some (i + 2, out)
    | none => some (if buf.length > opCmdMax * 4 then (1, .junk) else (0, .incomplete))

/-! ## 4. Frames, and the first reply of a buffer -/

/-- `op_rd_be32(buf + p)`. -/
def opRdBe32At (buf : Bytes) (p : Nat) : Option UInt32 :=
  (readAt buf p).bind fun b0 => (readAt buf (p + 1)).bind fun b1 =>
    (readAt buf (p + 2)).bind fun b2 => (readAt buf (p + 3)).map fun b3 => opRdBe32 b0 b1 b2 b3

/-- The frame branch of `op_parse`. -/
def opParseFrameAt (buf : Bytes) (channel : Nat) : Option (Nat × Parsed) :=
  if buf.length < 4 then some (0, .incomplete)
  else
    (readAt buf 3).bind fun b3 =>
      let frameLen := b3.toNat
      let need := 4 + frameLen
      if buf.length < need then some (0, .incomplete)
      else if frameLen < 1 then some (need, .junk)
      else
        (readAt buf 4).bind fun status => (sizeSub frameLen 1).bind fun bodyLen =>
          if opFrameHasTimestamp channel status bodyLen then
            (opRdBe32At buf 5).bind fun ts => (sizeSub frameLen 5).map fun dataLen =>
              (need, { reply := { kind := .frame, channel := channel, status := status,
                                  timestampUs := ts },
                       data := some ⟨9, dataLen⟩ })
          else
            some (need, { reply := { kind := .frame, channel := channel, status := status },
                          data := some ⟨5, bodyLen⟩ })

/-- `op_parse(buf, len)`. -/
def opParseAt (buf : Bytes) : Option (Nat × Parsed) :=
  if buf.length = 0 then some (0, .incomplete)
  else
    (readAt buf 0).bind fun b0 =>
      if b0 ≠ 0x61 then some (1, .junk)
      else if buf.length < 2 then some (0, .incomplete)
      else
        (readAt buf 1).bind fun b1 =>
          if b1 ≠ 0x72 then some (1, .junk)
          else if buf.length < 3 then some (0, .incomplete)
          else
            (readAt buf 2).bind fun c =>
              if isDigit c then opParseFrameAt buf (digitVal c) else opParseLineAt buf

/-- The test of `op_resync_offset` at `i`; a load is made only when those before it matched. -/
def resyncAt (buf : Bytes) (i : Nat) : Option Bool :=
  (readAt buf i).bind fun b0 =>
    if b0 = 0x61 then
      (readAt buf (i + 1)).bind fun b1 =>
        if b1 = 0x72 then (readAt buf (i + 2)).map knownThird else some false
    else some false

/-- `op_resync_offset(buf, len)`; its loop is over every `i` from 1 with `i + 2 < len`. -/
def opResyncOffsetAt (buf : Bytes) : Option Nat :=
  if buf.length < 3 then some buf.length
  else (findAt (resyncAt buf) (buf.length - 2 - 1) 1).map fun found => found.getD buf.length

example : opParseAt [0x61, 0x72, 0x69, 0x20, 0x76, 0x31, 0x0d, 0x0a, 0x61] =
    some (8, { reply := { kind := .info }, text := some ⟨4, 2⟩ }) := by decide

/-! ## 5. Numbers and tokens of a line -/

theorem parseU32LoopAt_eq {buf : Bytes} {s : Nat} : ∀ {l : Bytes} {i : Nat} (v : Nat),
    Window buf (s + i) l → ∃ k ≤ l.length,
      parseU32LoopAt buf s l.length i v = some (i + k, (parseU32Loop v l).1) ∧
      (parseU32Loop v l).2 = l.drop k
  | [], i, v, _ => ⟨0, Nat.le_refl _, rfl, rfl⟩
  | c :: t, i, v, w => by
      show ∃ k ≤ (c :: t).length, ((readAt buf (s + i)).bind fun c =>
        if isDigit c then
          parseU32LoopAt buf s t.length (i + 1) (min (v * 10 + digitVal c) 0xFFFFFFFF)
        else some (i, v)) = some (i + k, (parseU32Loop v (c :: t)).1) ∧ _
      rw [w.read, Option.bind_some]
      unfold parseU32Loop
      by_cases hc : isDigit c = true
      · rw [if_pos hc, if_pos hc]
        obtain ⟨k, hk, h1, h2⟩ := parseU32LoopAt_eq (s := s) (i := i + 1)
          (min (v * 10 + digitVal c) 0xFFFFFFFF) w.tail
        refine ⟨k + 1, Nat.succ_le_succ hk, ?_, h2⟩
        rw [h1, Nat.add_assoc, Nat.add_comm 1 k]
      · rw [if_neg hc, if_neg hc]
        exact ⟨0, Nat.zero_le _, rfl, rfl⟩

/-- `parse_u32` stays in its length, and returns 0 exactly where there is no digit. -/
theorem parseU32At_eq {buf l : Bytes} {s : Nat} (w : Window buf s l) :
    ∃ got v, parseU32At buf s l.length = some (got, v) ∧ got ≤ l.length ∧
      parseU32 l = if got = 0 then none else some (v, l.drop got) := by
  unfold parseU32At
  cases l with
  | nil => exact ⟨0, 0, rfl, Nat.le_refl _, rfl⟩
  | cons c t =>
      have hstep : parseU32LoopAt buf s (c :: t).length 0 0 = if isDigit c then
          parseU32LoopAt buf s t.length 1 (min (0 * 10 + digitVal c) 0xFFFFFFFF)
          else some (0, 0) := by
        show ((readAt buf (s + 0)).bind fun c => if isDigit c then _ else _) = _
        rw [Nat.add_zero, w.read]
        rfl
      rw [hstep]
      unfold parseU32
      simp only
      by_cases hc : isDigit c = true
      · obtain ⟨k, hk, h1, h2⟩ :=
          parseU32LoopAt_eq (s := s) (i := 1) (min (0 * 10 + digitVal c) 0xFFFFFFFF) w.tail
        have hloop : parseU32Loop 0 (c :: t) =
            parseU32Loop (min (0 * 10 + digitVal c) 0xFFFFFFFF) t := by
          rw [parseU32Loop, if_pos hc]
        rw [if_pos hc, if_pos hc, h1, hloop, h2]
        refine ⟨1 + k, _, rfl, ?_, ?_⟩
        · rw [List.length_cons]
          omega
        · rw [if_neg (by omega), Nat.add_comm 1 k]
          rfl
      · rw [if_neg hc, if_neg hc]
        exact ⟨0, _, rfl, Nat.zero_le _, rfl⟩

section Line

variable {buf line : Bytes} {body : Nat} (w : Window buf body line)
include w

theorem afterSpaces_eq {i : Nat} (hi : i ≤ line.length) : ∃ j, i ≤ j ∧ j ≤ line.length ∧
    afterSpaces buf body line.length i = some j ∧ skipSpaces (line.drop i) = line.drop j := by
  have hle : ((line.drop i).takeWhile (· == 0x20)).length ≤ (line.drop i).length :=
    (List.takeWhile_prefix _).length_le
  rw [List.length_drop] at hle
  refine ⟨i + ((line.drop i).takeWhile (· == 0x20)).length, Nat.le_add_right _ _, by omega,
    ?_, ?_⟩
  · unfold afterSpaces skipSpacesAt
    rw [sizeSub_drop hi, Option.bind_some, (w.drop hi).scan]
    rfl
  · unfold skipSpaces
    rw [← drop_takeWhile, List.drop_drop]

theorem numberAt_eq {i : Nat} (hi : i ≤ line.length) : ∃ got v,
    numberAt buf body line.length i = some (got, v) ∧ i + got ≤ line.length ∧
      parseU32 (line.drop i) = if got = 0 then none else some (v, line.drop (i + got)) := by
  obtain ⟨got, v, h1, h2, h3⟩ := parseU32At_eq (w.drop hi)
  rw [List.length_drop] at h2
  refine ⟨got, v, ?_, by omega, ?_⟩
  · unfold numberAt
    rw [sizeSub_drop hi, Option.bind_some, h1]
  · rw [h3, List.drop_drop]

/-- The token loop ends, with the tokens of the list: every turn but the last takes a byte. -/
theorem parseTailAt_eq : ∀ {fuel fuel' i : Nat} (tail : List UInt32), i ≤ line.length →
    line.length - i < fuel → line.length - i ≤ fuel' →
    parseTailAt buf body line.length fuel i tail =
      some (parseTailLoop fuel' (line.drop i) tail)
  | 0, _, _, _, _, hf, _ => absurd hf (Nat.not_lt_zero _)
  | fuel + 1, fuel', i, tail, hi, hf, hf' => by
      obtain ⟨j, hij, hj, hskip, hdrop⟩ := afterSpaces_eq w hi
      unfold parseTailAt
      rw [hskip, Option.bind_some]
      by_cases hend : line.length ≤ j
      · have hnil : line.drop j = [] := List.drop_of_length_le hend
        rw [if_pos hend]
        cases fuel' with
        | zero => rfl
        | succ fuel' =>
            unfold parseTailLoop
            rw [hdrop, hnil]
            rfl
      · obtain ⟨got, v, hnum, hle, hparse⟩ := numberAt_eq w hj
        rw [if_neg hend, hnum, Option.bind_some]
        cases fuel' with
        | zero => omega
        | succ fuel' =>
            unfold parseTailLoop
            rw [hdrop, hparse]
            by_cases hgot : got = 0
            · rw [if_pos hgot, if_pos hgot]
            · rw [if_neg hgot, if_neg hgot]
              exact parseTailAt_eq _ hle (by omega) (by omega)

theorem parseTailAt_line {i : Nat} (hi : i ≤ line.length) :
    parseTailAt buf body line.length (line.length + 1) i [] = some (parseTail (line.drop i)) :=
  parseTailAt_eq w [] hi (by omega) (by rw [List.length_drop])

end Line

theorem parseTailLoop_length : ∀ (fuel : Nat) (s : Bytes) {tail : List UInt32},
    tail.length ≤ tailMax → (parseTailLoop fuel s tail).length ≤ tailMax
  | 0, _, _, h => h
  | fuel + 1, s, tail, h => by
      unfold parseTailLoop
      cases parseU32 (skipSpaces s) with
      | none => exact h
      | some p =>
          refine parseTailLoop_length fuel p.2 ?_
          by_cases hlt : tail.length < tailMax
          · rw [if_pos hlt, List.length_append]
            exact hlt
          · rw [if_neg hlt]
            exact h

/-! ## 6. Reply lines -/

/-- Both pointers stay in front of `lim`. -/
def Parsed.Inside (lim : Nat) (r : Parsed) : Prop :=
  ∀ s, r.text = some s ∨ r.data = some s → s.off + s.len ≤ lim

/-- The checked run succeeds, and its reply is `y`. -/
def Agrees (buf : Bytes) (lim : Nat) (x : Option Parsed) (y : OpReply) : Prop :=
  ∃ r, x = some r ∧ r.view buf = y ∧ r.Inside lim ∧ y.tail.length ≤ tailMax ∧
    y.kind ≠ .incomplete

/-- A reply without pointers. -/
theorem inside_none {r : Parsed} (ht : r.text = none) (hd : r.data = none) (lim : Nat) :
    r.Inside lim := fun s h => by
  rw [ht, hd] at h
  rcases h with h | h
  · cases h
  · cases h

theorem agrees_junk (buf : Bytes) (lim : Nat) : Agrees buf lim (some .junk) .junk :=
  ⟨.junk, rfl, rfl, inside_none rfl rfl lim, Nat.zero_le _, fun e => (nomatch e)⟩

theorem Agrees.trans_eq {buf : Bytes} {lim : Nat} {x : Option Parsed} {y z : OpReply}
    (h : Agrees buf lim x y)
    (e : y = z) : Agrees buf lim x z := e ▸ h

/-- From any place in the line on, the two decoders agree. -/
def RestAgrees (buf line : Bytes) (body : Nat) (k : AsciiRest) (f : Bytes → OpReply) : Prop :=
  ∀ i ≤ line.length, Agrees buf (body + line.length) (k i) (f (line.drop i))

section Line

variable {buf line : Bytes} {body : Nat} (w : Window buf body line)
include w

theorem spacesThen_agrees {k : AsciiRest} {f : Bytes → OpReply}
    (h : RestAgrees buf line body k f) :
    RestAgrees buf line body (spacesThen buf body line.length k) fun s => f (skipSpaces s) :=
  fun i hi => by
    obtain ⟨j, -, hj, hskip, hdrop⟩ := afterSpaces_eq w hi
    unfold spacesThen
    simp only
    rw [hskip, Option.bind_some, hdrop]
    exact h j hj

theorem fieldThen_agrees {k : UInt32 → AsciiRest} {f : UInt32 → Bytes → OpReply}
    (h : ∀ v, RestAgrees buf line body (k v) (f v)) :
    RestAgrees buf line body (fieldThen buf body line.length k) fun s =>
      match parseU32 s with
      | none => .junk
      | some (v, s) => f v s :=
  fun i hi => by
    obtain ⟨got, v, hnum, hle, hparse⟩ := numberAt_eq w hi
    unfold fieldThen
    simp only
    rw [hnum, Option.bind_some, hparse]
    by_cases hgot : got = 0
    · rw [if_pos hgot, if_pos hgot]
      exact agrees_junk buf _
    · rw [if_neg hgot, if_neg hgot]
      exact h v (i + got) hle

theorem tailThen_agrees {k : List UInt32 → OpReply}
    (h : ∀ t, (k t).tail = t ∧ (k t).text = none ∧ (k t).data = none ∧
      ((k t).kind == .incomplete) = false) :
    RestAgrees buf line body (tailThen buf body line.length k) fun s => k (parseTail s) :=
  fun i hi => by
    obtain ⟨h1, h2, h3, h4⟩ := h (parseTail (line.drop i))
    unfold tailThen
    rw [parseTailAt_line w hi]
    refine ⟨_, rfl, ?_, inside_none rfl rfl _, ?_, beq_eq_false_iff_ne.mp h4⟩
    · unfold Parsed.view
      exact (congrArg₂ (fun x y => { k (parseTail (line.drop i)) with text := x, data := y })
        h2 h3).symm
    · rw [h1]
      exact parseTailLoop_length _ _ (Nat.zero_le _)

end Line


/-- The text of an `ari` is the rest of the line. -/
theorem textThen_agrees {buf line : Bytes} {body : Nat} (w : Window buf body line) :
    RestAgrees buf line body (fun i => (sizeSub line.length i).map fun len =>
      { reply := { kind := .info }, text := some ⟨body + i, len⟩ })
      fun s => { kind := .info, text := some s } :=
  fun i hi => by
    simp only
    rw [sizeSub_drop hi]
    refine ⟨_, rfl, ?_, ?_, Nat.zero_le _, fun e => (nomatch e)⟩
    · unfold Parsed.view
      exact congrArg (fun t => ({ kind := .info, text := some t } : OpReply)) (w.drop hi).holds
    · intro s e
      rcases e with e | e
      · cases e
        rw [List.length_drop]
        show body + i + (line.length - i) ≤ body + line.length
        omega
      · cases e

/-- An `ary` that announces more than 255 bytes is junk. -/
theorem announceThen_agrees {buf line : Bytes} {body : Nat} {count : UInt32} {k : AsciiRest}
    {f : Bytes → OpReply} (h : RestAgrees buf line body k f) :
    RestAgrees buf line body (fun i => if 255 < count then some .junk else k i)
      fun s => if 255 < count then .junk else f s :=
  fun i hi => by
    by_cases hc : 255 < count
    · simp only
      rw [if_pos hc, if_pos hc]
      exact agrees_junk buf _
    · simp only
      rw [if_neg hc, if_neg hc]
      exact h i hi

/-- **A reply line is decoded inside it**, to what `parseAscii` makes of its bytes. -/
theorem parseAsciiAt_agrees {buf line : Bytes} {body : Nat} (w : Window buf body line) :
    Agrees buf (body + line.length) (parseAsciiAt buf body line.length) (parseAscii line) := by
  cases line with
  | nil => exact agrees_junk buf _
  | cons verb s =>
      have h1 : 1 ≤ (verb :: s).length := Nat.succ_le_succ (Nat.zero_le _)
      unfold parseAsciiAt
      rw [if_neg (Nat.pos_iff_ne_zero.mp h1), w.read, Option.bind_some]
      split
      · exact (tailThen_agrees w (fun _ => ⟨rfl, rfl, rfl, rfl⟩) 1 h1).trans_eq rfl
      · exact (spacesThen_agrees w (fieldThen_agrees w fun code =>
          tailThen_agrees w fun _ => ⟨rfl, rfl, rfl, rfl⟩) 1 h1).trans_eq rfl
      · exact (spacesThen_agrees w (textThen_agrees w) 1 h1).trans_eq rfl
      · exact (spacesThen_agrees w (fieldThen_agrees w fun pin => spacesThen_agrees w
          (fieldThen_agrees w fun mv => tailThen_agrees w fun _ => ⟨rfl, rfl, rfl, rfl⟩))
            1 h1).trans_eq
          rfl
      · exact (fieldThen_agrees w (fun ch => spacesThen_agrees w (fieldThen_agrees w fun id =>
          tailThen_agrees w fun _ => ⟨rfl, rfl, rfl, rfl⟩)) 1 h1).trans_eq rfl
      · exact (fieldThen_agrees w (fun ch => spacesThen_agrees w (fieldThen_agrees w fun id =>
          tailThen_agrees w fun _ => ⟨rfl, rfl, rfl, rfl⟩)) 1 h1).trans_eq rfl
      · exact (fieldThen_agrees w (fun ch => spacesThen_agrees w (fieldThen_agrees w fun param =>
          spacesThen_agrees w (fieldThen_agrees w fun value =>
            tailThen_agrees w fun _ => ⟨rfl, rfl, rfl, rfl⟩))) 1 h1).trans_eq rfl
      · exact (fieldThen_agrees w (fun ch => spacesThen_agrees w (fieldThen_agrees w fun count =>
          announceThen_agrees (tailThen_agrees w fun _ => ⟨rfl, rfl, rfl, rfl⟩))) 1
            h1).trans_eq rfl
      · exact (fieldThen_agrees w (fun ch =>
          tailThen_agrees w fun _ => ⟨rfl, rfl, rfl, rfl⟩) 1 h1).trans_eq rfl
      -- any other verb is none of the nine in the other decoder either
      · unfold parseAscii
        simp only
        exact agrees_junk buf _

/-! ## 7. The first reply of a buffer -/

theorem crLfAt_eq {buf t : Bytes} {p : Nat} {c d : UInt8} (w : Window buf p (c :: d :: t)) :
    crLfAt buf p = some (decide (c = 0x0d ∧ d = 0x0a)) := by
  unfold crLfAt
  rw [w.read, Option.bind_some, w.tail.read]
  by_cases hc : c = 0x0d
  · rw [if_pos hc]
    simp only [hc, true_and]
    rfl
  · rw [if_neg hc]
    simp only [hc, false_and]
    rfl

theorem findCrLfAt_eq {buf : Bytes} : ∀ {s : Bytes} {p : Nat}, Window buf p s →
    findAt (crLfAt buf) (s.length - 1) p = some ((findCrLf s).map (p + ·))
  | [], _, _ => rfl
  | [_], _, _ => rfl
  | c :: d :: t, p, w => by
      have ih := findCrLfAt_eq w.tail
      show ((crLfAt buf p).bind fun b =>
        if b then some (some p) else findAt (crLfAt buf) t.length (p + 1)) = _
      rw [crLfAt_eq w, Option.bind_some]
      unfold findCrLf
      by_cases hcd : c = 0x0d ∧ d = 0x0a
      · rw [if_pos hcd, decide_eq_true hcd]
        rfl
      · rw [if_neg hcd, decide_eq_false hcd]
        refine ih.trans ?_
        rw [Option.map_map]
        refine congrArg (fun f => some (Option.map f (findCrLf (d :: t)))) (funext ?_)
        intro k
        show p + 1 + k = p + (k + 1)
        omega

/-- The checked run succeeds with `y`, which waits exactly when nothing is taken, and every
    pointer of the reply stays inside what is taken. -/
def Decodes (buf : Bytes) (x : Option (Nat × Parsed)) (y : Nat × OpReply) : Prop :=
  ∃ n r, x = some (n, r) ∧ (n, r.view buf) = y ∧ (n = 0 ↔ r.reply.kind = .incomplete) ∧
    n ≤ buf.length ∧ r.Inside n ∧ r.reply.tail.length ≤ tailMax

theorem decodes_incomplete (buf : Bytes) :
    Decodes buf (some (0, .incomplete)) (0, .incomplete) :=
  ⟨0, .incomplete, rfl, rfl, ⟨fun _ => rfl, fun _ => rfl⟩, Nat.zero_le _, inside_none rfl rfl _,
    Nat.zero_le _⟩

theorem decodes_junk {buf : Bytes} {n : Nat} (h0 : n ≠ 0) (h : n ≤ buf.length) :
    Decodes buf (some (n, .junk)) (n, .junk) :=
  ⟨n, .junk, rfl, rfl, ⟨fun e => absurd e h0, fun e => (nomatch e)⟩, h, inside_none rfl rfl _,
    Nat.zero_le _⟩

/-- A frame whose data is the window at `off`. -/
theorem decodes_frame {buf data : Bytes} {n off : Nat} {r : OpReply} (w : Window buf off data)
    (hk : r.kind = .frame) (ht : r.text = none) (htail : r.tail = [])
    (hoff : 0 < off) (hn : n = off + data.length) (hle : n ≤ buf.length) :
    Decodes buf (some (n, { reply := r, data := some ⟨off, data.length⟩ }))
      (n, { r with data := some data }) := by
  refine ⟨_, _, rfl, ?_, ?_, hle, ?_, ?_⟩
  · show (n, { r with text := none, data := some (Slice.bytes buf ⟨off, data.length⟩) }) = _
    have hd : Slice.bytes buf ⟨off, data.length⟩ = data := w.holds
    rw [hd, ← ht]
  · exact ⟨fun e => by omega, fun e => (nomatch hk.symm.trans e)⟩
  · intro s hs
    rcases hs with hs | hs
    · cases hs
    · cases hs
      exact Nat.le_of_eq hn.symm
  · show r.tail.length ≤ tailMax
    rw [htail]
    exact Nat.zero_le _

theorem opParseLineAt_decodes (c : UInt8) (t : Bytes) :
    Decodes (0x61 :: 0x72 :: c :: t) (opParseLineAt (0x61 :: 0x72 :: c :: t))
      (opParseLine (c :: t)) := by
  have w : Window (0x61 :: 0x72 :: c :: t) 2 (c :: t) := (window_whole _).tail.tail
  have hlen : (0x61 :: 0x72 :: c :: t).length = (c :: t).length + 2 := rfl
  have hfind : findAt (crLfAt (0x61 :: 0x72 :: c :: t))
      ((0x61 :: 0x72 :: c :: t).length - 1 - 2) 2 = some ((findCrLf (c :: t)).map (2 + ·)) :=
    findCrLfAt_eq w
  unfold opParseLineAt opParseLine
  rw [hfind, Option.bind_some]
  cases hf : findCrLf (c :: t) with
  | none =>
      simp only [Option.map_none]
      rw [hlen]
      by_cases hg : (c :: t).length + 2 > opCmdMax * 4
      · rw [if_pos hg, if_pos hg]
        exact decodes_junk Nat.one_ne_zero (by rw [hlen]; omega)
      · rw [if_neg hg, if_neg hg]
        exact decodes_incomplete _
  | some k =>
      have hk := findCrLf_lt hf
      have hline : ((c :: t).take k).length = k := List.length_take_of_le (by omega)
      obtain ⟨out, h1, h2, h3, h4, h5⟩ := parseAsciiAt_agrees (w.take k)
      rw [hline] at h1 h3
      have hsub : sizeSub (2 + k) 2 = some k := by
        unfold sizeSub
        rw [if_pos (Nat.le_add_right _ _), Nat.add_sub_cancel_left]
      have hkind : out.reply.kind = (parseAscii ((c :: t).take k)).kind := congrArg (·.kind) h2
      have ha : out.reply.a = (parseAscii ((c :: t).take k)).a := congrArg (·.a) h2
      have htail : out.reply.tail = (parseAscii ((c :: t).take k)).tail := congrArg (·.tail) h2
      have hary : (if out.reply.kind = .init then
          (readAt (0x61 :: 0x72 :: c :: t) 2).map fun c => decide (c = 0x79) else some false) =
          some (decide ((parseAscii ((c :: t).take k)).kind = .init ∧
            (c :: t).head? = some 0x79)) := by
        rw [hkind, w.read]
        by_cases hi : (parseAscii ((c :: t).take k)).kind = .init
        · rw [if_pos hi]
          simp [hi]
        · rw [if_neg hi]
          simp [hi]
      simp only [Option.map_some]
      rw [hsub, Option.bind_some, h1, Option.bind_some, hary, Option.bind_some]
      by_cases hy : (parseAscii ((c :: t).take k)).kind = .init ∧ (c :: t).head? = some 0x79
      · rw [if_pos hy, decide_eq_true hy, if_pos rfl, ha, hlen]
        have hcmp : (c :: t).length + 2 < 2 + k + 2 + (parseAscii ((c :: t).take k)).a.toNat ↔
            (c :: t).length < k + 2 + (parseAscii ((c :: t).take k)).a.toNat := by omega
        by_cases hw : (c :: t).length < k + 2 + (parseAscii ((c :: t).take k)).a.toNat
        · rw [if_pos hw, if_pos (hcmp.mpr hw)]
          exact decodes_incomplete _
        · rw [if_neg hw, if_neg (fun h => hw (hcmp.mp h))]
          have hn : 2 + k + 2 + (parseAscii ((c :: t).take k)).a.toNat =
              k + 4 + (parseAscii ((c :: t).take k)).a.toNat := by omega
          refine ⟨_, _, rfl, ?_, ?_, ?_, ?_, ?_⟩
          · rw [hn]
            refine congrArg (Prod.mk _) ?_
            rw [← h2, show 2 + k + 2 = k + 2 + 2 by omega]
            rfl
          · exact ⟨fun e => by omega, fun e => absurd (hkind.symm.trans e) h5⟩
          · rw [hlen]
            omega
          · intro s hs
            rcases hs with hs | hs
            · exact Nat.le_trans (h3 s (.inl hs)) (by omega)
            · cases hs
              exact Nat.le_refl _
          · exact htail ▸ h4
      · rw [if_neg hy, decide_eq_false hy, if_neg (by decide), show 2 + k + 2 = k + 4 by omega]
        refine ⟨k + 4, out, rfl, by rw [h2], ?_, ?_, ?_, htail ▸ h4⟩
        · exact ⟨fun e => by omega, fun e => absurd (hkind.symm.trans e) h5⟩
        · rw [hlen]
          omega
        · intro s hs
          exact Nat.le_trans (h3 s hs) (by omega)

theorem opRdBe32At_eq {buf t : Bytes} {p : Nat} {b0 b1 b2 b3 : UInt8}
    (w : Window buf p (b0 :: b1 :: b2 :: b3 :: t)) :
    opRdBe32At buf p = some (opRdBe32 b0 b1 b2 b3) := by
  unfold opRdBe32At
  rw [w.read, Option.bind_some, w.tail.read, Option.bind_some, w.tail.tail.read, Option.bind_some,
    w.tail.tail.tail.read]
  rfl

theorem opParseFrameAt_decodes (ch : Nat) (c : UInt8) (t : Bytes) :
    Decodes (0x61 :: 0x72 :: c :: t) (opParseFrameAt (0x61 :: 0x72 :: c :: t) ch)
      (opParseFrame ch t) := by
  have w : Window (0x61 :: 0x72 :: c :: t) 3 t := (window_whole _).tail.tail.tail
  have hlen : (0x61 :: 0x72 :: c :: t).length = t.length + 3 := rfl
  unfold opParseFrameAt opParseFrame
  rw [hlen]
  cases t with
  | nil => exact decodes_incomplete _
  | cons len s =>
      rw [if_neg (by rw [List.length_cons]; omega), w.read, Option.bind_some]
      simp only
      by_cases hw : s.length < len.toNat
      · rw [if_pos hw, if_pos (by rw [List.length_cons]; omega)]
        exact decodes_incomplete _
      · rw [if_neg hw, if_neg (by rw [List.length_cons]; omega)]
        have hcut : (s.take len.toNat).length = len.toNat := List.length_take_of_le (by omega)
        cases hm : s.take len.toNat with
        | nil =>
            rw [hm] at hcut
            have h0 : len.toNat = 0 := hcut.symm
            rw [h0, if_pos Nat.one_pos]
            exact decodes_junk (by decide) (by rw [hlen, List.length_cons]; omega)
        | cons status body =>
            have hw' : Window (0x61 :: 0x72 :: c :: len :: s) 4 (status :: body) :=
              hm ▸ w.tail.take len.toNat
            rw [hm, List.length_cons] at hcut
            have hle : 4 + len.toNat ≤ (0x61 :: 0x72 :: c :: len :: s).length := by
              simp only [List.length_cons]
              omega
            have hsub : sizeSub (body.length + 1) 1 = some body.length :=
              if_pos (Nat.le_add_left 1 _)
            rw [if_neg (by omega), hw'.read, Option.bind_some, ← hcut, hsub, Option.bind_some]
            simp only
            rcases frameReply_cases ch status body with
              ⟨b0, b1, b2, b3, data, ht, rfl, hr⟩ | ⟨ht, hr⟩
            · have hsub' : sizeSub ((b0 :: b1 :: b2 :: b3 :: data).length + 1) 5 =
                  some data.length := if_pos (Nat.le_add_left 5 _)
              rw [ht, if_pos rfl, opRdBe32At_eq hw'.tail, Option.bind_some, hsub', hr]
              refine decodes_frame hw'.tail.tail.tail.tail.tail rfl rfl rfl
                (by decide) ?_ (hcut ▸ hle)
              simp only [List.length_cons]
              omega
            · rw [ht, if_neg (by decide), hr]
              refine decodes_frame hw'.tail rfl rfl rfl (by decide) ?_ (hcut ▸ hle)
              omega

/-- **`op_parse` reads only inside the buffer**, ends, and decodes what `Proto/Reply` says. -/
theorem opParseAt_decodes (buf : Bytes) : Decodes buf (opParseAt buf) (opParse buf) := by
  cases buf with
  | nil => exact decodes_incomplete _
  | cons b0 s =>
      have w := window_whole (b0 :: s)
      have hne : (b0 :: s).length ≠ 0 := Nat.succ_ne_zero s.length
      unfold opParseAt opParse
      rw [if_neg hne, w.read, Option.bind_some]
      simp only
      by_cases h0 : b0 ≠ 0x61
      · rw [if_pos h0, if_pos h0]
        exact decodes_junk Nat.one_ne_zero (Nat.le_add_left 1 s.length)
      have e0 := Classical.not_not.mp h0
      rw [if_neg h0, if_neg h0]
      cases s with
      | nil => exact decodes_incomplete _
      | cons b1 s =>
          have h2 : ¬(b0 :: b1 :: s).length < 2 := Nat.not_lt.mpr (Nat.le_add_left 2 s.length)
          rw [if_neg h2, w.tail.read, Option.bind_some]
          by_cases h1 : b1 ≠ 0x72
          · rw [if_pos h1]
            simp only
            rw [if_pos h1]
            exact decodes_junk Nat.one_ne_zero (Nat.le_add_left 1 (s.length + 1))
          have e1 := Classical.not_not.mp h1
          rw [if_neg h1]
          simp only
          rw [if_neg h1]
          cases s with
          | nil => exact decodes_incomplete _
          | cons c t =>
              subst e0 e1
              have h3 : ¬(0x61 :: 0x72 :: c :: t).length < 3 :=
                Nat.not_lt.mpr (Nat.le_add_left 3 t.length)
              rw [if_neg h3, w.tail.tail.read, Option.bind_some]
              simp only
              by_cases hd : isDigit c = true
              · rw [if_pos hd, if_pos hd]
                exact opParseFrameAt_decodes (digitVal c) c t
              · rw [if_neg hd, if_neg hd]
                exact opParseLineAt_decodes c t

/-! ## 8. The next boundary -/

/-- A reply can begin at `i`: "ar" and a known third byte stand there. -/
def Boundary (buf : Bytes) (i : Nat) : Prop :=
  readAt buf i = some 0x61 ∧ readAt buf (i + 1) = some 0x72 ∧
    ∃ c, readAt buf (i + 2) = some c ∧ knownThird c = true

theorem resyncAt_eq {buf t : Bytes} {p : Nat} {b0 b1 b2 : UInt8}
    (w : Window buf p (b0 :: b1 :: b2 :: t)) :
    resyncAt buf p = some (decide (b0 = 0x61 ∧ b1 = 0x72 ∧ knownThird b2 = true)) := by
  unfold resyncAt
  rw [w.read, Option.bind_some, w.tail.read, Option.bind_some, w.tail.tail.read]
  by_cases h0 : b0 = 0x61
  · rw [if_pos h0]
    by_cases h1 : b1 = 0x72
    · rw [if_pos h1]
      simp [h0, h1]
    · rw [if_neg h1]
      simp [h1]
  · rw [if_neg h0]
    simp [h0]

theorem resyncAt_scan {buf : Bytes} : ∀ {s : Bytes} {p : Nat}, Window buf p s →
    ∃ r, findAt (resyncAt buf) (s.length - 2) p = some r ∧
      r.getD (p + s.length) = p + resyncScan s
  | [], _, _ => ⟨none, rfl, rfl⟩
  | [_], _, _ => ⟨none, rfl, rfl⟩
  | [_, _], _, _ => ⟨none, rfl, rfl⟩
  | b0 :: b1 :: b2 :: t, p, w => by
      have hstep : findAt (resyncAt buf) ((b0 :: b1 :: b2 :: t).length - 2) p =
          (resyncAt buf p).bind fun b =>
            if b then some (some p) else findAt (resyncAt buf) t.length (p + 1) := rfl
      rw [hstep, resyncAt_eq w, Option.bind_some]
      unfold resyncScan
      by_cases h : b0 = 0x61 ∧ b1 = 0x72 ∧ knownThird b2 = true
      · rw [if_pos h, decide_eq_true h]
        exact ⟨some p, rfl, rfl⟩
      · obtain ⟨r, h1, h2⟩ := resyncAt_scan w.tail
        rw [if_neg h, decide_eq_false h]
        refine ⟨r, h1, ?_⟩
        have hend : p + (b0 :: b1 :: b2 :: t).length = p + 1 + (b1 :: b2 :: t).length := by
          simp only [List.length_cons]
          omega
        rw [hend, h2]
        omega

/-- Where three bytes are left, the test reads inside the buffer and tells a boundary. -/
theorem resyncAt_boundary {buf : Bytes} {i : Nat} (hi : i + 2 < buf.length) :
    resyncAt buf i = some true ↔ Boundary buf i := by
  have w : Window buf i (buf.drop i) := by
    have h := (window_whole buf).drop (i := i) (by omega)
    rwa [Nat.zero_add] at h
  have hlen : (buf.drop i).length = buf.length - i := List.length_drop
  match hd : buf.drop i with
  | [] | [_] | [_, _] =>
      rw [hd] at hlen
      simp only [List.length_cons, List.length_nil] at hlen
      omega
  | b0 :: b1 :: b2 :: t =>
      rw [hd] at w
      rw [resyncAt_eq w]
      unfold Boundary
      rw [w.read, w.tail.read, w.tail.tail.read]
      simp

/-- The offset `op_resync_offset` promises: the least boundary behind the first byte, or the
    length. -/
def NextBoundary (buf : Bytes) (k : Nat) : Prop :=
  (1 ≤ k ∧ Boundary buf k ∧ ∀ i, 1 ≤ i → i < k → ¬Boundary buf i) ∨
    (k = buf.length ∧ ∀ i, 1 ≤ i → ¬Boundary buf i)

/-- **`op_resync_offset` reads only inside the buffer** and returns the least boundary. -/
theorem opResyncOffsetAt_next (buf : Bytes) :
    ∃ k, opResyncOffsetAt buf = some k ∧ k = opResyncOffset buf ∧ NextBoundary buf k := by
  -- a boundary needs three bytes
  have hbound : ∀ {i : Nat}, Boundary buf i → i + 2 < buf.length := fun ⟨_, _, c, hc, _⟩ =>
    (List.getElem?_eq_some_iff.mp hc).1
  unfold opResyncOffsetAt
  by_cases hl : buf.length < 3
  · rw [if_pos hl]
    refine ⟨buf.length, rfl, ?_, .inr ⟨rfl, ?_⟩⟩
    · match buf, hl with
      | [], _ => rfl
      | [_], _ => rfl
      | [_, _], _ => rfl
    · intro i hi hb
      have := hbound hb
      omega
  · rw [if_neg hl]
    cases buf with
    | nil => exact absurd (Nat.succ_pos 2) hl
    | cons b0 s =>
        have hleft : (b0 :: s).length - 2 - 1 = s.length - 2 := by
          rw [List.length_cons]
          omega
        obtain ⟨r, h1, h2⟩ := resyncAt_scan (window_whole (b0 :: s)).tail
        have hlen : 1 + s.length = (b0 :: s).length := Nat.add_comm 1 _
        rw [hlen] at h2
        rw [hleft, h1]
        refine ⟨r.getD (b0 :: s).length, rfl, h2.trans (Nat.add_comm 1 _), ?_⟩
        obtain ⟨hsome, hnone⟩ := findAt_least h1
        have hfail : ∀ {j}, resyncAt (b0 :: s) j = some false → ¬Boundary (b0 :: s) j :=
          fun hf hb => by
            rw [(resyncAt_boundary (hbound hb)).mpr hb] at hf
            cases hf
        cases r with
        | some k =>
            obtain ⟨hk, hlt, ht, hmin⟩ := hsome k rfl
            rw [List.length_cons] at hl
            refine .inl ⟨hk, (resyncAt_boundary ?_).mp ht, fun i hi hik => hfail (hmin i hi hik)⟩
            show k + 2 < (b0 :: s).length
            rw [List.length_cons]
            omega
        | none =>
            refine .inr ⟨rfl, ?_⟩
            intro i hi hb
            have hlt := hbound hb
            rw [List.length_cons] at hlt
            exact hfail (hnone rfl i hi (by omega)) hb

end Openport
