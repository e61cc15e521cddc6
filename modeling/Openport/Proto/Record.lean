/-
  File:      Openport/Proto/Record.lean
  Subject:   The records a device sends, as values: their bytes on the wire and the
             reply `op_parse` must give for each.

  A `Record` is one binary frame or one reply line of the forms listed in
  `docs/PROTOCOL.md` section 3. `Record.wire` writes it, `Record.reply` says
  what it means, and `record_code` proves that the driver's parser takes
  exactly the record off any buffer that begins with it and waits on every
  proper beginning of it.
-/
import Openport.Device.Demux

namespace Openport

open Lib.Decimal Lib.Framing

/-! ## 1. Records and their bytes -/

/-- One record of the device's stream. `tail` holds the tokens after a reply's fixed fields. -/
inductive Record where
  | frame (channel : Fin 10) (status : UInt8) (body : Bytes)
  | ok (tail : List UInt32)
  | error (code : UInt32) (tail : List UInt32)
  | info (spaces : Nat) (text : Bytes)
  | pin (pin mv : UInt32) (tail : List UInt32)
  | filter (channel id : UInt32) (tail : List UInt32)
  | config (channel param value : UInt32) (tail : List UInt32)
  | periodic (channel id : UInt32) (tail : List UInt32)
  | fastInit (channel : UInt32) (tail : List UInt32) (raw : Bytes)
  | fiveBaud (channel : UInt32) (tail : List UInt32)
  deriving DecidableEq, Repr

/-- Numbers as the device prints them: each after one space. -/
def fields : List UInt32 → Bytes
  | [] => []
  | v :: vs => 0x20 :: (decimal v.toNat ++ fields vs)

/-- A reply line between "ar" and its CR LF; empty for a frame. -/
def Record.body : Record → Bytes
  | .frame _ _ _ => []
  | .ok tail => 0x6f :: fields tail
  | .error code tail => 0x65 :: fields (code :: tail)
  | .info spaces text => 0x69 :: (List.replicate spaces 0x20 ++ text)
  | .pin p mv tail => 0x72 :: fields (p :: mv :: tail)
  | .filter ch id tail => 0x66 :: (decimal ch.toNat ++ fields (id :: tail))
  | .config ch param value tail => 0x67 :: (decimal ch.toNat ++ fields (param :: value :: tail))
  | .periodic ch id tail => 0x6d :: (decimal ch.toNat ++ fields (id :: tail))
  | .fastInit ch tail raw => 0x79 :: (decimal ch.toNat ++ fields (UInt32.ofNat raw.length :: tail))
  | .fiveBaud ch tail => 0x77 :: (decimal ch.toNat ++ fields tail)

/-- The raw bytes after a reply line. -/
def Record.raw : Record → Bytes
  | .fastInit _ _ raw => raw
  | _ => []

/-- The bytes of a record. -/
def Record.wire (r : Record) : Bytes :=
  match r with
  | .frame ch status body =>
    0x61 :: 0x72 :: digitByte ch.val :: UInt8.ofNat (1 + body.length) :: status :: body
  | r => 0x61 :: 0x72 :: (r.body ++ 0x0d :: 0x0a :: r.raw)

/-- What the record means: the reply `op_parse` gives for it. -/
def Record.reply : Record → OpReply
  | .frame ch status body => frameReply ch.val status body
  | .ok tail => { kind := .ok, tail := tail }
  | .error code tail =>
    { kind := .error, errorCode := code, tail := tail,
      hasDetail := decide (1 ≤ tail.length), detail := tail.headD 0 }
  | .info _ text => { kind := .info, text := some text }
  | .pin p mv tail => { kind := .pin, a := p, b := mv, tail := tail }
  | .filter ch id tail => { kind := .filter, channel := ch.toNat, a := id, tail := tail }
  | .config ch param value tail =>
    { kind := .config, channel := ch.toNat, a := param, b := value, tail := tail }
  | .periodic ch id tail => { kind := .periodic, channel := ch.toNat, a := id, tail := tail }
  | .fastInit ch tail raw =>
    { kind := .init, channel := ch.toNat, a := UInt32.ofNat raw.length, tail := tail,
      data := some raw }
  | .fiveBaud ch tail => { kind := .init, channel := ch.toNat, tail := tail }

/-- Where the record goes: a frame to `absorb_frame`, a reply to `stash_reply`. -/
def Record.handed (r : Record) : Handed :=
  match r with
  | .frame _ _ _ => .frame r.reply
  | r => .reply r.reply

/-- The tokens after a reply's fixed fields. -/
def Record.tail : Record → List UInt32
  | .ok tail | .error _ tail | .pin _ _ tail | .filter _ _ tail | .config _ _ _ tail
  | .periodic _ _ tail | .fastInit _ tail _ | .fiveBaud _ tail => tail
  | _ => []

/-- A text that begins with a space or holds a CR LF is not what the line says it is. -/
def Record.textOk : Record → Prop
  | .info _ text => text.head? ≠ some 0x20 ∧ findCrLf text = none
  | _ => True

/-- A well-formed record: a frame's length fits its byte; a reply line, its CR LF counted, is
    at most 256 bytes and has at most eight tokens after its fixed fields, and `ary`
    announces at most 255 raw bytes. -/
structure Record.WellFormed (r : Record) : Prop where
  frameBody : ∀ ch status body, r = .frame ch status body → body.length ≤ 254
  line : r.body.length + 4 ≤ 256
  tailFits : r.tail.length ≤ tailMax
  rawFits : r.raw.length ≤ 255
  text : r.textOk

/-- A frame whose body fits its length byte. -/
theorem frame_wellFormed (ch : Fin 10) (status : UInt8) {body : Bytes} (h : body.length ≤ 254) :
    (Record.frame ch status body).WellFormed := by
  refine ⟨?_, Nat.le_of_ble_eq_true rfl, Nat.le_of_ble_eq_true rfl,
    Nat.le_of_ble_eq_true rfl, trivial⟩
  intro c s b e
  cases e
  exact h

/-- A record the device may send. -/
def WireRecord : Type := { r : Record // r.WellFormed }

/-! ## 2. Reading a numeral -/

/-- What follows a numeral does not continue it. -/
def NoDigit (s : Bytes) : Prop := ∀ c t, s = c :: t → isDigit c = false

theorem noDigit_nil : NoDigit [] := by
  intro c t h
  cases h

theorem noDigit_cons {c : UInt8} {t : Bytes} (h : isDigit c = false) : NoDigit (c :: t) := by
  intro c' t' e
  cases e
  exact h

/-- The digits of a run are folded with saturation, up to the first byte that is no digit. -/
theorem parseU32Loop_run : ∀ (ds rest : Bytes) (v : Nat), (∀ c ∈ ds, isDigit c = true) →
    NoDigit rest → parseU32Loop v (ds ++ rest) = (satValue 0xFFFFFFFF v ds, rest)
  | [], rest, v, _, hr => by
      cases rest with
      | nil => rfl
      | cons c t =>
          have hc : isDigit c = false := hr c t rfl
          show parseU32Loop v (c :: t) = _
          unfold parseU32Loop
          rw [hc]
          rfl
  | c :: ds, rest, v, hd, hr => by
      have hc : isDigit c = true := hd c List.mem_cons_self
      have ih := parseU32Loop_run ds rest (min (v * 10 + digitVal c) 0xFFFFFFFF)
        (fun e he => hd e (List.mem_cons_of_mem _ he)) hr
      show parseU32Loop v (c :: (ds ++ rest)) = _
      unfold parseU32Loop
      rw [if_pos hc, ih]
      rfl

/-- **`parse_u32` reads back a printed 32-bit number.** -/
theorem parseU32_decimal (v : UInt32) {rest : Bytes} (hr : NoDigit rest) :
    parseU32 (decimal v.toNat ++ rest) = some (v, rest) := by
  have hrun := parseU32Loop_run (decimal v.toNat) rest 0 (decimal_isDigit _) hr
  have hv : v.toNat ≤ 0xFFFFFFFF := Nat.le_of_lt_succ v.toNat_lt
  rw [satValue_decimal hv] at hrun
  cases hd : decimal v.toNat with
  | nil => exact absurd hd (decimal_ne_nil _)
  | cons c ds =>
      have hc : isDigit c = true := decimal_isDigit v.toNat c (by rw [hd]; exact List.mem_cons_self)
      rw [hd] at hrun
      show parseU32 (c :: (ds ++ rest)) = _
      unfold parseU32
      simp only [hc, if_true]
      rw [show c :: (ds ++ rest) = c :: ds ++ rest from rfl, hrun]
      simp only [UInt32.ofNat_toNat]

theorem skipSpaces_noSpace {s : Bytes} (h : s.head? ≠ some 0x20) : skipSpaces s = s := by
  cases s with
  | nil => rfl
  | cons c t =>
      have hc : (c == 0x20) = false := by
        refine beq_eq_false_iff_ne.mpr fun e => h ?_
        rw [e]
        rfl
      unfold skipSpaces
      rw [List.dropWhile_cons, hc]
      rfl

theorem skipSpaces_replicate (k : Nat) {s : Bytes} (h : s.head? ≠ some 0x20) :
    skipSpaces (List.replicate k 0x20 ++ s) = s := by
  induction k with
  | zero => exact skipSpaces_noSpace h
  | succ k ih => exact ih

theorem decimal_head_ne_space (n : Nat) (rest : Bytes) :
    (decimal n ++ rest).head? ≠ some 0x20 := by
  cases hd : decimal n with
  | nil => exact absurd hd (decimal_ne_nil n)
  | cons c ds =>
      intro e
      have hc : isDigit c = true := decimal_isDigit n c (by rw [hd]; exact List.mem_cons_self)
      have e' : c = 0x20 := Option.some.inj e
      rw [e'] at hc
      exact absurd hc (by decide)

theorem skipSpaces_field (n : Nat) (rest : Bytes) :
    skipSpaces (0x20 :: (decimal n ++ rest)) = decimal n ++ rest :=
  skipSpaces_replicate 1 (decimal_head_ne_space n rest)

/-! ## 3. Fields and tails -/

theorem noDigit_fields (vs : List UInt32) : NoDigit (fields vs) := by
  cases vs with
  | nil => exact noDigit_nil
  | cons v vs => exact noDigit_cons (by decide)

/-- A printed field is read back, and the next field follows. -/
theorem parseU32_field (v : UInt32) (vs : List UInt32) :
    parseU32 (skipSpaces (fields (v :: vs))) = some (v, fields vs) := by
  show parseU32 (skipSpaces (0x20 :: (decimal v.toNat ++ fields vs))) = _
  rw [skipSpaces_field, parseU32_decimal v (noDigit_fields vs)]

theorem fields_length_le (vs : List UInt32) : vs.length ≤ (fields vs).length := by
  induction vs with
  | nil => exact Nat.le_refl 0
  | cons v vs ih =>
      simp only [fields, List.length_cons, List.length_append]
      omega

theorem parseTailLoop_fields : ∀ (vs : List UInt32) (fuel : Nat) (acc : List UInt32),
    vs.length ≤ fuel → acc.length + vs.length ≤ tailMax →
    parseTailLoop fuel (fields vs) acc = acc ++ vs
  | [], fuel, acc, _, _ => by
      rw [List.append_nil]
      cases fuel with
      | zero => rfl
      | succ fuel => rfl
  | v :: vs, 0, _, hf, _ => absurd hf (Nat.not_succ_le_zero _)
  | v :: vs, fuel + 1, acc, hf, hm => by
      have hlt : acc.length < tailMax := by
        simp only [List.length_cons] at hm
        omega
      unfold parseTailLoop
      rw [parseU32_field]
      simp only [hlt, if_true]
      rw [parseTailLoop_fields vs fuel (acc ++ [v]) (Nat.le_of_succ_le_succ hf) ?_]
      · rw [List.append_assoc]
        rfl
      · simp only [List.length_append, List.length_cons, List.length_nil] at hm ⊢
        omega

/-- **`parse_tail` reads back up to eight printed tokens.** -/
theorem parseTail_fields {vs : List UInt32} (h : vs.length ≤ tailMax) :
    parseTail (fields vs) = vs := by
  unfold parseTail
  rw [parseTailLoop_fields vs _ [] (fields_length_le vs) (by simpa using h)]
  rfl

/-! ## 4. Where a line ends -/

theorem findCrLf_eq_none {c d : UInt8} {t : Bytes} :
    findCrLf (c :: d :: t) = none ↔ ¬(c = 0x0d ∧ d = 0x0a) ∧ findCrLf (d :: t) = none := by
  show (if c = 0x0d ∧ d = 0x0a then some 0 else (findCrLf (d :: t)).map (· + 1)) = none ↔ _
  by_cases h : c = 0x0d ∧ d = 0x0a
  · rw [if_pos h]
    exact ⟨fun e => (nomatch e), fun e => absurd h e.1⟩
  · rw [if_neg h, Option.map_eq_none_iff]
    exact ⟨fun e => ⟨h, e⟩, fun e => e.2⟩

theorem findCrLf_cons_ne {c : UInt8} (h : c ≠ 0x0d) (s : Bytes) :
    findCrLf (c :: s) = (findCrLf s).map (· + 1) := by
  cases s with
  | nil => rfl
  | cons d t =>
      show (if c = 0x0d ∧ d = 0x0a then some 0 else _) = _
      rw [if_neg fun e => h e.1]

/-- A line without CR holds no CR LF. -/
theorem findCrLf_noCr {s : Bytes} (h : ∀ c ∈ s, c ≠ 0x0d) : findCrLf s = none := by
  induction s with
  | nil => rfl
  | cons c t ih =>
      rw [findCrLf_cons_ne (h c List.mem_cons_self), ih fun d hd => h d (List.mem_cons_of_mem _ hd)]
      rfl

/-- The first CR LF after a text without one is the one that ends it, the text's own last CR
    notwithstanding. -/
theorem findCrLf_end : ∀ (s rest : Bytes), findCrLf s = none →
    findCrLf (s ++ 0x0d :: 0x0a :: rest) = some s.length
  | [], _, _ => rfl
  | [c], rest, _ => by
      show (if c = 0x0d ∧ (0x0d : UInt8) = 0x0a then some 0 else _) = _
      rw [if_neg fun e => absurd e.2 (by decide)]
      rfl
  | c :: d :: t, rest, h => by
      obtain ⟨hcd, ht⟩ := findCrLf_eq_none.mp h
      have ih := findCrLf_end (d :: t) rest ht
      show (if c = 0x0d ∧ d = 0x0a then some 0 else _) = _
      rw [if_neg hcd]
      show (findCrLf (d :: t ++ 0x0d :: 0x0a :: rest)).map (· + 1) = _
      rw [ih]
      rfl

/-- The CR alone does not end the line yet. -/
theorem findCrLf_cr : ∀ (s : Bytes), findCrLf s = none → findCrLf (s ++ [0x0d]) = none
  | [], _ => rfl
  | [c], _ => by
      show (if c = 0x0d ∧ (0x0d : UInt8) = 0x0a then some 0 else _) = _
      rw [if_neg fun e => absurd e.2 (by decide)]
      rfl
  | c :: d :: t, h => by
      obtain ⟨hcd, ht⟩ := findCrLf_eq_none.mp h
      have ih := findCrLf_cr (d :: t) ht
      show (if c = 0x0d ∧ d = 0x0a then some 0 else _) = _
      rw [if_neg hcd]
      show (findCrLf (d :: t ++ [0x0d])).map (· + 1) = _
      rw [ih]
      rfl

/-- A beginning of a text without CR LF has none either. -/
theorem findCrLf_prefix : ∀ (p s : Bytes), p <+: s → findCrLf s = none → findCrLf p = none
  | [], _, _, _ => rfl
  | [_], _, _, _ => rfl
  | c :: d :: t, s, hp, h => by
      obtain ⟨r, rfl⟩ := hp
      obtain ⟨hcd, ht⟩ := findCrLf_eq_none.mp (show findCrLf (c :: d :: (t ++ r)) = none from h)
      exact findCrLf_eq_none.mpr
        ⟨hcd, findCrLf_prefix (d :: t) (d :: (t ++ r)) (List.prefix_append (d :: t) r) ht⟩

/-- A proper beginning of a line with its CR LF holds no CR LF. -/
theorem findCrLf_waits {s p : Bytes} (h : findCrLf s = none) (hp : p <+: s ++ [0x0d, 0x0a])
    (hne : p ≠ s ++ [0x0d, 0x0a]) : findCrLf p = none := by
  refine findCrLf_prefix p (s ++ [0x0d]) ?_ (findCrLf_cr s h)
  have e : s ++ [0x0d, 0x0a] = (s ++ [0x0d]) ++ [0x0a] := by simp
  rw [e] at hp hne
  rcases List.prefix_concat_iff.mp hp with h' | h'
  · exact absurd h' hne
  · exact h'

theorem findCrLf_lt : ∀ {s : Bytes} {k : Nat}, findCrLf s = some k → k + 2 ≤ s.length
  | [], _, h => by cases h
  | [_], _, h => by cases h
  | c :: d :: t, k, h => by
      change (if c = 0x0d ∧ d = 0x0a then some 0 else (findCrLf (d :: t)).map (· + 1)) = some k at h
      by_cases hcd : c = 0x0d ∧ d = 0x0a
      · rw [if_pos hcd] at h
        cases h
        exact Nat.le_add_left 2 t.length
      · rw [if_neg hcd] at h
        obtain ⟨j, hj, rfl⟩ := Option.map_eq_some_iff.mp h
        have ih := findCrLf_lt hj
        rw [List.length_cons]
        omega

/-- More bytes behind it do not move the first CR LF. -/
theorem findCrLf_append : ∀ {s : Bytes} {k : Nat} (p : Bytes), findCrLf s = some k →
    findCrLf (s ++ p) = some k
  | [], _, _, h => by cases h
  | [_], _, _, h => by cases h
  | c :: d :: t, k, p, h => by
      change (if c = 0x0d ∧ d = 0x0a then some 0 else (findCrLf (d :: t)).map (· + 1)) = some k at h
      show (if c = 0x0d ∧ d = 0x0a then some 0 else (findCrLf (d :: t ++ p)).map (· + 1)) = some k
      by_cases hcd : c = 0x0d ∧ d = 0x0a
      · rw [if_pos hcd] at h ⊢
        exact h
      · rw [if_neg hcd] at h ⊢
        obtain ⟨j, hj, rfl⟩ := Option.map_eq_some_iff.mp h
        rw [findCrLf_append p hj]
        rfl

/-! ## 5. Reply lines -/

/-- Digits, spaces and letters only: no byte of a printed line is a CR. -/
theorem fields_noCr (vs : List UInt32) : ∀ c ∈ fields vs, c ≠ 0x0d := by
  induction vs with
  | nil =>
      intro c hc
      exact absurd hc List.not_mem_nil
  | cons v vs ih =>
      intro c hc
      rcases List.mem_cons.mp hc with rfl | hc
      · decide
      rcases List.mem_append.mp hc with hd | hr
      · rintro rfl
        exact absurd (decimal_isDigit _ _ hd) (by decide)
      · exact ih c hr

theorem channelFields_noCr (n : Nat) (vs : List UInt32) :
    ∀ c ∈ decimal n ++ fields vs, c ≠ 0x0d := by
  intro c hc
  rcases List.mem_append.mp hc with hd | hr
  · rintro rfl
    exact absurd (decimal_isDigit _ _ hd) (by decide)
  · exact fields_noCr vs c hr

/-- Spaces before a text add no CR LF to it. -/
theorem findCrLf_spaces (k : Nat) {s : Bytes} (h : findCrLf s = none) :
    findCrLf (List.replicate k 0x20 ++ s) = none := by
  induction k with
  | zero => exact h
  | succ k ih =>
      show findCrLf (0x20 :: (List.replicate k 0x20 ++ s)) = none
      rw [findCrLf_cons_ne (by decide), ih]
      rfl

/-- No reply line holds a CR LF. -/
theorem Record.findCrLf_body {r : Record} (ht : r.textOk) : findCrLf r.body = none := by
  cases r with
  | frame ch status body => rfl
  | info k text =>
      show findCrLf (0x69 :: (List.replicate k 0x20 ++ text)) = none
      rw [findCrLf_cons_ne (by decide), findCrLf_spaces k ht.2]
      rfl
  | ok tail | error code tail | pin p mv tail =>
      refine findCrLf_noCr ?_
      intro c hc
      rcases List.mem_cons.mp hc with rfl | hc
      · decide
      · exact fields_noCr _ c hc
  | filter ch id tail | config ch param value tail | periodic ch id tail
  | fastInit ch tail raw | fiveBaud ch tail =>
      refine findCrLf_noCr ?_
      intro c hc
      rcases List.mem_cons.mp hc with rfl | hc
      · decide
      · exact channelFields_noCr _ _ c hc

/-- What `parse_ascii` makes of the record's line; the raw bytes are not on it. -/
def Record.lineReply (r : Record) : OpReply :=
  match r with
  | .fastInit _ _ _ => { r.reply with data := none }
  | r => r.reply

/-- **`parse_ascii` reads back every reply line.** -/
theorem parseAscii_body {r : Record} (h : r.WellFormed)
    (hf : ∀ ch status body, r ≠ .frame ch status body) :
    parseAscii r.body = r.lineReply := by
  have htail := h.tailFits
  have channel : ∀ (ch : UInt32) (vs : List UInt32),
      parseU32 (decimal ch.toNat ++ fields vs) = some (ch, fields vs) :=
    fun ch vs => parseU32_decimal ch (noDigit_fields vs)
  cases r with
  | frame ch status body => exact absurd rfl (hf ch status body)
  | ok tail =>
      have e : parseTail (fields tail) = tail := parseTail_fields htail
      simp [Record.body, parseAscii, Record.lineReply, Record.reply, e]
  | error code tail =>
      have e : parseTail (fields tail) = tail := parseTail_fields htail
      simp [Record.body, parseAscii, Record.lineReply, Record.reply, parseU32_field, e]
  | info k text =>
      have e := skipSpaces_replicate k h.text.1
      simp [Record.body, parseAscii, Record.lineReply, Record.reply, e]
  | pin p mv tail =>
      have e : parseTail (fields tail) = tail := parseTail_fields htail
      simp [Record.body, parseAscii, Record.lineReply, Record.reply, parseU32_field, e]
  | filter ch id tail =>
      have e : parseTail (fields tail) = tail := parseTail_fields htail
      simp [Record.body, parseAscii, Record.lineReply, Record.reply, channel, parseU32_field, e]
  | config ch param value tail =>
      have e : parseTail (fields tail) = tail := parseTail_fields htail
      simp [Record.body, parseAscii, Record.lineReply, Record.reply, channel, parseU32_field, e]
  | periodic ch id tail =>
      have e : parseTail (fields tail) = tail := parseTail_fields htail
      simp [Record.body, parseAscii, Record.lineReply, Record.reply, channel, parseU32_field, e]
  | fastInit ch tail raw =>
      have e : parseTail (fields tail) = tail := parseTail_fields htail
      have hraw : ¬255 < UInt32.ofNat raw.length := by
        have hl : raw.length ≤ 255 := h.rawFits
        rw [UInt32.lt_iff_toNat_lt, UInt32.toNat_ofNat']
        simp only [UInt32.reduceToNat]
        omega
      simp [Record.body, parseAscii, Record.lineReply, Record.reply, channel,
        parseU32_field, e, hraw]
  | fiveBaud ch tail =>
      have e : parseTail (fields tail) = tail := parseTail_fields htail
      simp [Record.body, parseAscii, Record.lineReply, Record.reply, channel, e]

/-! ## 6. `op_parse` takes exactly one record -/

/-- A reply line starts with a letter. -/
theorem Record.body_verb (r : Record) (hf : ∀ ch status body, r ≠ .frame ch status body) :
    ∃ verb s, r.body = verb :: s ∧ isDigit verb = false := by
  cases r with
  | frame ch status body => exact absurd rfl (hf ch status body)
  | ok | error | info | pin | filter | config | periodic | fastInit | fiveBaud =>
      exact ⟨_, _, rfl, by decide⟩

theorem Record.wire_line {r : Record} (hf : ∀ ch status body, r ≠ .frame ch status body) :
    r.wire = 0x61 :: 0x72 :: (r.body ++ 0x0d :: 0x0a :: r.raw) := by
  cases r with
  | frame ch status body => exact absurd rfl (hf ch status body)
  | ok | error | info | pin | filter | config | periodic | fastInit | fiveBaud => rfl

/-- After "ar" and a letter the reply is a line. -/
theorem opParse_verb {verb : UInt8} {s : Bytes} (h : isDigit verb = false) :
    opParse (0x61 :: 0x72 :: verb :: s) = opParseLine (verb :: s) := by
  simp [opParse, h]

theorem opParse_body {r : Record} (hf : ∀ ch status body, r ≠ .frame ch status body) (s : Bytes) :
    opParse (0x61 :: 0x72 :: (r.body ++ s)) = opParseLine (r.body ++ s) := by
  obtain ⟨verb, t, hb, hv⟩ := r.body_verb hf
  rw [hb]
  exact opParse_verb hv

/-- A complete line that is not `ary`: the line alone. -/
theorem opParseLine_plain {body rest : Bytes} (hc : findCrLf body = none)
    (hy : ¬((parseAscii body).kind = .init ∧ body.head? = some 0x79)) (hb : body ≠ []) :
    opParseLine (body ++ 0x0d :: 0x0a :: rest) = (body.length + 4, parseAscii body) := by
  have hhead : (body ++ 0x0d :: 0x0a :: rest).head? = body.head? := List.head?_append_of_ne_nil _ hb
  unfold opParseLine
  rw [findCrLf_end body rest hc]
  simp only [List.take_left, hhead, hy, if_false]

/-- A complete `ary` line: the announced raw bytes belong to the reply. -/
theorem opParseLine_raw {body rest : Bytes} (hc : findCrLf body = none)
    (hy : (parseAscii body).kind = .init ∧ body.head? = some 0x79) (hb : body ≠ []) :
    opParseLine (body ++ 0x0d :: 0x0a :: rest) =
      if rest.length < (parseAscii body).a.toNat then (0, .incomplete)
      else (body.length + 4 + (parseAscii body).a.toNat,
        { parseAscii body with data := some (rest.take (parseAscii body).a.toNat) }) := by
  have hhead : (body ++ 0x0d :: 0x0a :: rest).head? = body.head? := List.head?_append_of_ne_nil _ hb
  have hlen : (body ++ 0x0d :: 0x0a :: rest).length = body.length + 2 + rest.length := by
    simp only [List.length_append, List.length_cons]
    omega
  have hdrop : (body ++ 0x0d :: 0x0a :: rest).drop (body.length + 2) = rest := by
    rw [← List.drop_drop, List.drop_left]
    rfl
  unfold opParseLine
  rw [findCrLf_end body rest hc]
  simp only [List.take_left, hhead, hy, and_self, if_true, hlen, hdrop]
  by_cases h : rest.length < (parseAscii body).a.toNat
  · rw [if_pos h, if_pos (by omega)]
  · rw [if_neg h, if_neg (by omega)]

/-- Only `ary` is an init reply beginning with 'y'. -/
theorem Record.lineReply_init {r : Record}
    (h : r.lineReply.kind = .init ∧ r.body.head? = some 0x79) :
    ∃ ch tail raw, r = .fastInit ch tail raw := by
  cases r with
  | fastInit ch tail raw => exact ⟨ch, tail, raw, rfl⟩
  | frame ch status body => exact absurd h.2 (by simp [Record.body])
  | fiveBaud ch tail => exact absurd h.2 (by simp [Record.body])
  | ok | error | info | pin | filter | config | periodic => cases h.1

theorem toNat_ofNat_le {n : Nat} (h : n ≤ 255) : (UInt32.ofNat n).toNat = n := by
  rw [UInt32.toNat_ofNat']
  omega

/-- What `ary` announces is the number of raw bytes. -/
theorem Record.lineReply_a {r : Record} (h : r.WellFormed)
    (hy : r.lineReply.kind = .init ∧ r.body.head? = some 0x79) :
    r.lineReply.a.toNat = r.raw.length := by
  obtain ⟨ch, tail, raw, rfl⟩ := r.lineReply_init hy
  exact toNat_ofNat_le h.rawFits

/-- **A reply line is taken whole off any buffer it begins.** -/
theorem opParse_line {r : Record} (h : r.WellFormed)
    (hf : ∀ ch status body, r ≠ .frame ch status body) (rest : Bytes) :
    opParse (r.wire ++ rest) = (r.wire.length, r.reply) := by
  obtain ⟨verb, t, hb, -⟩ := r.body_verb hf
  have hne : r.body ≠ [] := by
    rw [hb]
    exact List.cons_ne_nil _ _
  have hc := r.findCrLf_body h.text
  have hp := parseAscii_body h hf
  have hw : r.wire ++ rest = 0x61 :: 0x72 :: (r.body ++ 0x0d :: 0x0a :: (r.raw ++ rest)) := by
    rw [r.wire_line hf]
    simp
  have hl : r.wire.length = r.body.length + 4 + r.raw.length := by
    rw [r.wire_line hf]
    simp only [List.length_cons, List.length_append]
    omega
  rw [hw, opParse_body hf, hl]
  by_cases hy : r.lineReply.kind = .init ∧ r.body.head? = some 0x79
  · rw [opParseLine_raw hc (by rw [hp]; exact hy) hne, hp, r.lineReply_a h hy,
      if_neg (by rw [List.length_append]; omega), List.take_left]
    obtain ⟨ch, tail, raw, rfl⟩ := r.lineReply_init hy
    rfl
  · rw [opParseLine_plain hc (by rw [hp]; exact hy) hne, hp]
    cases r with
    | fastInit ch tail raw => exact absurd ⟨rfl, rfl⟩ hy
    | frame ch status body => exact absurd rfl (hf ch status body)
    | ok | error | info | pin | filter | config | periodic | fiveBaud => rfl

/-- A buffer that ends before the line's CR LF is complete waits: the guard against a peer
    that never ends a line is above every well-formed one. -/
theorem opParse_line_cut {r : Record} (h : r.WellFormed)
    (hf : ∀ ch status body, r ≠ .frame ch status body) {q : Bytes}
    (hq : q <+: r.body ++ [0x0d, 0x0a]) (hne : q ≠ r.body ++ [0x0d, 0x0a]) :
    (opParse (0x61 :: 0x72 :: q)).1 = 0 := by
  obtain ⟨verb, t, hb, hv⟩ := r.body_verb hf
  cases q with
  | nil => rfl
  | cons c s =>
      have hcv : c = verb := by
        rw [hb] at hq
        exact (List.cons_prefix_cons.mp hq).1
      have hlen : (c :: s).length < r.body.length + 2 := by
        have hle := hq.length_le
        rw [List.length_append] at hle
        refine Nat.lt_of_le_of_ne hle fun e => hne (hq.eq_of_length ?_)
        rw [e, List.length_append]
        rfl
      have hbound := h.line
      have hguard : ¬(c :: s).length + 2 > opCmdMax * 4 := by
        show ¬_ > 256
        omega
      subst hcv
      rw [opParse_verb hv]
      unfold opParseLine
      rw [findCrLf_waits (r.findCrLf_body h.text) hq hne]
      simp only [hguard, if_false]

/-- A buffer that ends before the announced raw bytes are all there waits. -/
theorem opParse_raw_cut {r : Record} (h : r.WellFormed)
    (hf : ∀ ch status body, r ≠ .frame ch status body) {raw' : Bytes}
    (hlt : raw'.length < r.raw.length) :
    (opParse (0x61 :: 0x72 :: (r.body ++ 0x0d :: 0x0a :: raw'))).1 = 0 := by
  have hbne : r.body ≠ [] := by
    obtain ⟨verb, t, hb, -⟩ := r.body_verb hf
    rw [hb]
    exact List.cons_ne_nil _ _
  have hy : r.lineReply.kind = .init ∧ r.body.head? = some 0x79 := by
    cases r with
    | fastInit ch tail raw => exact ⟨rfl, rfl⟩
    | frame | ok | error | info | pin | filter | config | periodic | fiveBaud =>
        exact absurd hlt (Nat.not_lt_zero _)
  have hp := parseAscii_body h hf
  rw [opParse_body hf, opParseLine_raw (r.findCrLf_body h.text) (by rw [hp]; exact hy) hbne, hp,
    r.lineReply_a h hy, if_pos hlt]

/-- **A proper beginning of a reply line waits for the rest.** -/
theorem opParse_line_waits {r : Record} (h : r.WellFormed)
    (hf : ∀ ch status body, r ≠ .frame ch status body) {p : Bytes} (hp : p <+: r.wire)
    (hne : p ≠ r.wire) : (opParse p).1 = 0 := by
  rw [r.wire_line hf] at hp hne
  rcases p with _ | ⟨b0, _ | ⟨b1, q⟩⟩
  · rfl
  · obtain ⟨rfl, -⟩ := List.cons_prefix_cons.mp hp
    rfl
  obtain ⟨rfl, hp1⟩ := List.cons_prefix_cons.mp hp
  obtain ⟨rfl, hq⟩ := List.cons_prefix_cons.mp hp1
  have hqne : q ≠ r.body ++ 0x0d :: 0x0a :: r.raw := fun e => hne (by rw [e])
  have hsplit : r.body ++ 0x0d :: 0x0a :: r.raw = (r.body ++ [0x0d, 0x0a]) ++ r.raw := by simp
  -- either the line itself is cut, or the raw bytes after it are
  by_cases hl : q <+: r.body ++ [0x0d, 0x0a] ∧ q ≠ r.body ++ [0x0d, 0x0a]
  · exact opParse_line_cut h hf hl.1 hl.2
  have hx : r.body ++ [0x0d, 0x0a] <+: q := by
    have hx := hsplit ▸ List.prefix_append (r.body ++ [0x0d, 0x0a]) r.raw
    rcases List.prefix_or_prefix_of_prefix hq hx with hl' | hl'
    · have e : q = r.body ++ [0x0d, 0x0a] := Classical.byContradiction fun e => hl ⟨hl', e⟩
      rw [e]
    · exact hl'
  obtain ⟨raw', hr⟩ := hx
  have hq' : q = r.body ++ 0x0d :: 0x0a :: raw' := by
    rw [← hr]
    simp
  rw [hq'] at hq hqne
  have hraw : raw' <+: r.raw := by
    have h1 := (List.prefix_append_right_inj r.body).mp hq
    exact (List.cons_prefix_cons.mp (List.cons_prefix_cons.mp h1).2).2
  rw [hq']
  refine opParse_raw_cut h hf (Nat.lt_of_le_of_ne hraw.length_le fun e => hqne ?_)
  rw [hraw.eq_of_length e]

/-! ## 7. Frames -/

/-- The two forms of a frame's reply. -/
theorem frameReply_cases (ch : Nat) (status : UInt8) (body : Bytes) :
    (∃ b0 b1 b2 b3 data, opFrameHasTimestamp ch status body.length = true ∧
      body = b0 :: b1 :: b2 :: b3 :: data ∧ frameReply ch status body =
        { kind := .frame, channel := ch, status := status,
          timestampUs := opRdBe32 b0 b1 b2 b3, data := some data }) ∨
    (opFrameHasTimestamp ch status body.length = false ∧ frameReply ch status body =
      { kind := .frame, channel := ch, status := status, data := some body }) := by
  have hfour : opFrameHasTimestamp ch status body.length = true → 4 ≤ body.length := by
    unfold opFrameHasTimestamp
    intro h
    split at h
    · exact of_decide_eq_true h
    · have := of_decide_eq_true (Bool.and_eq_true_iff.mp h).2
      omega
  cases ht : opFrameHasTimestamp ch status body.length with
  | false =>
      refine Or.inr ⟨rfl, ?_⟩
      unfold frameReply
      rw [ht]
  | true =>
      have hl := hfour ht
      match body, hl with
      | b0 :: b1 :: b2 :: b3 :: data, _ =>
          refine Or.inl ⟨b0, b1, b2, b3, data, rfl, rfl, ?_⟩
          unfold frameReply
          rw [ht]

theorem frameReply_channel (ch : Nat) (status : UInt8) (body : Bytes) :
    (frameReply ch status body).channel = ch := by
  unfold frameReply
  split <;> rfl

theorem frameReply_status (ch : Nat) (status : UInt8) (body : Bytes) :
    (frameReply ch status body).status = status := by
  unfold frameReply
  split <;> rfl

theorem frameReply_kind (ch : Nat) (status : UInt8) (body : Bytes) :
    (frameReply ch status body).kind = .frame := by
  unfold frameReply
  split <;> rfl

theorem digitVal_channel (ch : Fin 10) : digitVal (digitByte ch.val) = ch.val :=
  digitVal_digitByte ch.isLt

/-- After "ar" and a channel digit the reply is a frame. -/
theorem opParse_channel (ch : Fin 10) (s : Bytes) :
    opParse (0x61 :: 0x72 :: digitByte ch.val :: s) = opParseFrame ch.val s := by
  have hd : isDigit (digitByte ch.val) = true := isDigit_digitByte ch.isLt
  simp [opParse, hd, digitVal_channel]

/-- The length byte of a frame counts its status byte and its body. -/
theorem frameLen {body : Bytes} (h : body.length ≤ 254) :
    (UInt8.ofNat (1 + body.length)).toNat = 1 + body.length := by
  rw [UInt8.toNat_ofNat']
  omega

/-- **A frame is taken whole off any buffer it begins.** -/
theorem opParse_frame (ch : Fin 10) (status : UInt8) {body : Bytes} (h : body.length ≤ 254)
    (rest : Bytes) : opParse ((Record.frame ch status body).wire ++ rest) =
      ((Record.frame ch status body).wire.length, frameReply ch.val status body) := by
  have hlen := frameLen h
  have htake : (status :: (body ++ rest)).take (1 + body.length) = status :: body := by
    rw [Nat.add_comm 1, List.take_succ_cons, List.take_left]
  show opParse (0x61 :: 0x72 :: digitByte ch.val ::
    (UInt8.ofNat (1 + body.length) :: (status :: (body ++ rest)))) = _
  rw [opParse_channel]
  unfold opParseFrame
  simp only [hlen, htake]
  rw [if_neg (by simp only [List.length_cons, List.length_append]; omega)]
  have hw : (Record.frame ch status body).wire.length = 4 + (1 + body.length) := by
    simp only [Record.wire, List.length_cons]
    omega
  rw [hw]

/-- **A proper beginning of a frame waits for the rest.** -/
theorem opParse_frame_waits (ch : Fin 10) (status : UInt8) {body : Bytes} (h : body.length ≤ 254)
    {p : Bytes} (hp : p <+: (Record.frame ch status body).wire)
    (hne : p ≠ (Record.frame ch status body).wire) : (opParse p).1 = 0 := by
  have hlen := frameLen h
  change p <+: 0x61 :: 0x72 :: digitByte ch.val :: UInt8.ofNat
    (1 + body.length) :: status :: body at hp
  change p ≠ 0x61 :: 0x72 :: digitByte ch.val :: UInt8.ofNat
    (1 + body.length) :: status :: body at hne
  rcases p with _ | ⟨b0, _ | ⟨b1, _ | ⟨c, s⟩⟩⟩
  · rfl
  · obtain ⟨rfl, -⟩ := List.cons_prefix_cons.mp hp
    rfl
  · obtain ⟨rfl, hp1⟩ := List.cons_prefix_cons.mp hp
    obtain ⟨rfl, -⟩ := List.cons_prefix_cons.mp hp1
    rfl
  obtain ⟨rfl, hp1⟩ := List.cons_prefix_cons.mp hp
  obtain ⟨rfl, hp2⟩ := List.cons_prefix_cons.mp hp1
  obtain ⟨rfl, hp3⟩ := List.cons_prefix_cons.mp hp2
  rw [opParse_channel]
  rcases s with _ | ⟨len, s⟩
  · rfl
  obtain ⟨rfl, hs⟩ := List.cons_prefix_cons.mp hp3
  have hlt : s.length < 1 + body.length := by
    have hle := hs.length_le
    simp only [List.length_cons] at hle
    refine Nat.lt_of_le_of_ne (by omega) fun e => hne ?_
    rw [hs.eq_of_length (by rw [List.length_cons]; omega)]
  unfold opParseFrame
  simp only [hlen, hlt, if_true]

/-! ## 8. Every record is a code word of the reader -/

/-- A reply that is no junk begins with "ar". -/
theorem opParse_inv {buf : Bytes} (h0 : (opParse buf).1 ≠ 0) (hj : (opParse buf).2.kind ≠ .junk) :
    ∃ c t, buf = 0x61 :: 0x72 :: c :: t ∧
      (isDigit c = true ∧ opParse buf = opParseFrame (digitVal c) t ∨
        isDigit c = false ∧ opParse buf = opParseLine (c :: t)) := by
  rcases buf with _ | ⟨b0, _ | ⟨b1, _ | ⟨c, t⟩⟩⟩
  · exact absurd rfl h0
  · by_cases e0 : b0 = 0x61 <;> simp [opParse, e0, OpReply.junk] at h0 hj
  · by_cases e0 : b0 = 0x61 <;> by_cases e1 : b1 = 0x72 <;>
      simp [opParse, e0, e1, OpReply.junk] at h0 hj
  by_cases e0 : b0 = 0x61
  · by_cases e1 : b1 = 0x72
    · subst e0 e1
      cases hc : isDigit c with
      | true => exact ⟨c, t, rfl, Or.inl ⟨hc, by simp [opParse, hc]⟩⟩
      | false => exact ⟨c, t, rfl, Or.inr ⟨hc, by simp [opParse, hc]⟩⟩
    · simp [opParse, e0, e1, OpReply.junk] at hj
  · simp [opParse, e0, OpReply.junk] at hj

/-- The kind of a reply line's reply is none of the three the loop treats apart. -/
theorem Record.reply_kind {r : Record} (hf : ∀ ch status body, r ≠ .frame ch status body) :
    r.reply.kind ≠ .frame ∧ r.reply.kind ≠ .junk ∧ r.handed = .reply r.reply := by
  cases r with
  | frame ch status body => exact absurd rfl (hf ch status body)
  | ok | error | info | pin | filter | config | periodic | fastInit | fiveBaud =>
      exact ⟨fun e => (nomatch e), fun e => (nomatch e), rfl⟩

/-- A turn of the loop that finds a frame. -/
theorem consumeStep_frame {buf : Bytes} {n : Nat} {r : OpReply} (h : opParse buf = (n, r))
    (hn : n ≠ 0) (hk : r.kind = .frame) : consumeStep buf = some (.frame r, buf.drop n) := by
  unfold consumeStep
  simp only [h, hn, if_false, hk]

/-- A turn of the loop that finds a reply. -/
theorem consumeStep_reply {buf : Bytes} {n : Nat} {r : OpReply} (h : opParse buf = (n, r))
    (hn : n ≠ 0) (hk : r.kind ≠ .frame) (hj : r.kind ≠ .junk) :
    consumeStep buf = some (.reply r, buf.drop n) := by
  unfold consumeStep
  simp only [h, hn, if_false]

/-- **A well-formed record codes what it is handed on as.** -/
theorem record_code {r : Record} (h : r.WellFormed) : Code consumeStep r.wire r.handed := by
  by_cases hf : ∀ ch status body, r ≠ .frame ch status body
  · obtain ⟨h1, h2, h3⟩ := r.reply_kind hf
    refine ⟨?_, fun p hp hne => consumeStep_wait (opParse_line_waits h hf hp hne)⟩
    intro rest
    have hlen : r.wire.length ≠ 0 := by
      rw [r.wire_line hf]
      exact Nat.succ_ne_zero _
    rw [consumeStep_reply (opParse_line h hf rest) hlen h1 h2, List.drop_left, h3]
  · obtain ⟨ch, status, body, rfl⟩ : ∃ ch status body, r = .frame ch status body := by
      refine Classical.byContradiction fun hn => hf fun ch status body e => hn ⟨ch, status, body, e⟩
    have hb : body.length ≤ 254 := h.frameBody ch status body rfl
    refine ⟨?_, fun p hp hne => consumeStep_wait
      (opParse_frame_waits ch status hb hp hne)⟩
    intro rest
    rw [consumeStep_frame (opParse_frame ch status hb rest) (Nat.succ_ne_zero _)
      (frameReply_kind ch.val status body), List.drop_left]
    rfl

end Openport
